namespace NatReach.Utf8

/-- A character, or an octet that belongs to none. -/
abbrev Symbol := Option Char

def follower (bits : Nat) : UInt8 := UInt8.ofNat (0x80 + bits % 0x40)

def encodeChar (c : Char) : List UInt8 :=
  let n := c.toNat
  if n < 0x80 then [UInt8.ofNat n]
  else if n < 0x800 then [UInt8.ofNat (0xC0 + n / 0x40), follower n]
  else if n < 0x10000 then
    [UInt8.ofNat (0xE0 + n / 0x1000), follower (n / 0x40), follower n]
  else
    [UInt8.ofNat (0xF0 + n / 0x40000), follower (n / 0x1000), follower (n / 0x40), follower n]

def encode (cs : List Char) : List UInt8 := cs.flatMap encodeChar

def isFollower (octet : UInt8) : Bool := 0x80 ≤ octet.toNat && octet.toNat < 0xC0

def two? (a b : UInt8) : Option Char :=
  let n := (a.toNat - 0xC0) * 0x40 + (b.toNat - 0x80)
  if 0xC2 ≤ a.toNat && a.toNat < 0xE0 && isFollower b then some (Char.ofNat n) else none

/-- The character of three octets, if it needs all of them and is no half of a surrogate pair. -/
def three? (a b c : UInt8) : Option Char :=
  let n := (a.toNat - 0xE0) * 0x1000 + (b.toNat - 0x80) * 0x40 + (c.toNat - 0x80)
  if 0xE0 ≤ a.toNat && a.toNat < 0xF0 && isFollower b && isFollower c && 0x800 ≤ n &&
    !(0xD800 ≤ n && n < 0xE000) then some (Char.ofNat n) else none

def four? (a b c d : UInt8) : Option Char :=
  let n := (a.toNat - 0xF0) * 0x40000 + (b.toNat - 0x80) * 0x1000 + (c.toNat - 0x80) * 0x40 +
    (d.toNat - 0x80)
  if 0xF0 ≤ a.toNat && a.toNat < 0xF8 && isFollower b && isFollower c && isFollower d &&
    0x10000 ≤ n && n < 0x110000 then some (Char.ofNat n) else none

def front? (a : UInt8) (rest : List UInt8) : Option (Char × Nat) :=
  if a.toNat < 0x80 then some (Char.ofNat a.toNat, 0)
  else
    match rest with
    | [] => none
    | b :: rest =>
      match two? a b, rest with
      | some char, _ => some (char, 1)
      | none, [] => none
      | none, c :: rest =>
        match three? a b c, rest with
        | some char, _ => some (char, 2)
        | none, [] => none
        | none, d :: _ => (four? a b c d).map (·, 3)

/-- The symbols of octets behind `taken` octets that belong to a character already read. -/
def symbolsFrom : (taken : Nat) → List UInt8 → List Symbol
  | _, [] => []
  | taken + 1, _ :: rest => symbolsFrom taken rest
  | 0, a :: rest =>
    match front? a rest with
    | some (char, more) => some char :: symbolsFrom more rest
    | none => none :: symbolsFrom 0 rest

def symbols (octets : List UInt8) : List Symbol := symbolsFrom 0 octets

def decode? (octets : List UInt8) : Option (List Char) := (symbols octets).mapM id

/-! ## Reading back -/

theorem toNat_lt (c : Char) : c.toNat < 0xD800 ∨ (0xDFFF < c.toNat ∧ c.toNat < 0x110000) := by
  have := c.valid
  simpa [UInt32.isValidChar, Nat.isValidChar] using this

theorem symbols_encodeChar_append (c : Char) (rest : List UInt8) :
    symbols (encodeChar c ++ rest) = some c :: symbols rest := by
  have valid := toNat_lt c
  have back := Char.ofNat_toNat c
  unfold encodeChar symbols
  generalize c.toNat = n at *
  have octet (k : Nat) (small : k < 256) : (UInt8.ofNat k).toNat = k := by
    simp only [UInt8.toNat_ofNat']
    omega
  have follows (k : Nat) : (follower k).toNat = 0x80 + k % 0x40 := octet _ (by omega)
  have isFollows (k : Nat) : isFollower (follower k) = true := by
    simp only [isFollower, follows, Bool.and_eq_true, decide_eq_true_eq]
    omega
  dsimp only
  split
  · rename_i small
    simp only [List.cons_append, List.nil_append, symbolsFrom, front?]
    rw [octet n (by omega)]
    simp [small, back]
  · split
    · rename_i notOne two
      have first := octet (0xC0 + n / 0x40) (by omega)
      have value : (0xC0 + n / 0x40 - 0xC0) * 0x40 + (0x80 + n % 0x40 - 0x80) = n := by omega
      have hit : two? (UInt8.ofNat (0xC0 + n / 0x40)) (follower n) = some c := by
        simp only [two?, first, follows, isFollows, value, back]
        simp
        omega
      have big : ¬ 0xC0 + n / 0x40 < 0x80 := by omega
      rw [← first] at big
      generalize UInt8.ofNat (0xC0 + n / 0x40) = a at *
      simp [symbolsFrom, front?, big, hit]
    · split
      · rename_i notOne notTwo three
        have first := octet (0xE0 + n / 0x1000) (by omega)
        have value : (0xE0 + n / 0x1000 - 0xE0) * 0x1000 + (0x80 + n / 0x40 % 0x40 - 0x80) * 0x40 +
            (0x80 + n % 0x40 - 0x80) = n := by omega
        have miss : two? (UInt8.ofNat (0xE0 + n / 0x1000)) (follower (n / 0x40)) = none := by
          simp only [two?, first, follows]
          refine if_neg ?_
          simp only [Bool.and_eq_true, decide_eq_true_eq]
          omega
        have hit : three? (UInt8.ofNat (0xE0 + n / 0x1000)) (follower (n / 0x40)) (follower n) =
            some c := by
          simp only [three?, first, follows, isFollows, value, back]
          simp
          omega
        have big : ¬ 0xE0 + n / 0x1000 < 0x80 := by omega
        rw [← first] at big
        generalize UInt8.ofNat (0xE0 + n / 0x1000) = a at *
        simp [symbolsFrom, front?, big, miss, hit]
      · rename_i notOne notTwo notThree
        have first := octet (0xF0 + n / 0x40000) (by omega)
        have value : (0xF0 + n / 0x40000 - 0xF0) * 0x40000 +
            (0x80 + n / 0x1000 % 0x40 - 0x80) * 0x1000 + (0x80 + n / 0x40 % 0x40 - 0x80) * 0x40 +
            (0x80 + n % 0x40 - 0x80) = n := by omega
        have missTwo : two? (UInt8.ofNat (0xF0 + n / 0x40000)) (follower (n / 0x1000)) = none := by
          simp only [two?, first, follows]
          refine if_neg ?_
          simp only [Bool.and_eq_true, decide_eq_true_eq]
          omega
        have missThree : three? (UInt8.ofNat (0xF0 + n / 0x40000)) (follower (n / 0x1000))
            (follower (n / 0x40)) = none := by
          simp only [three?, first, follows]
          refine if_neg ?_
          simp only [Bool.and_eq_true, decide_eq_true_eq]
          omega
        have hit : four? (UInt8.ofNat (0xF0 + n / 0x40000)) (follower (n / 0x1000))
            (follower (n / 0x40)) (follower n) = some c := by
          simp only [four?, first, follows, isFollows, value, back]
          simp
          omega
        have big : ¬ 0xF0 + n / 0x40000 < 0x80 := by omega
        rw [← first] at big
        generalize UInt8.ofNat (0xF0 + n / 0x40000) = a at *
        simp [symbolsFrom, front?, big, missTwo, missThree, hit]

theorem symbols_encode (cs : List Char) (rest : List UInt8) :
    symbols (encode cs ++ rest) = cs.map some ++ symbols rest := by
  induction cs with
  | nil => simp [encode]
  | cons c cs ih =>
      have h := symbols_encodeChar_append c (encode cs ++ rest)
      simp only [encode, List.flatMap_cons, List.append_assoc, List.map_cons, List.cons_append] at *
      rw [h, ih]

end NatReach.Utf8
