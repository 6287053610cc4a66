import Mathlib.Data.List.DropRight
import NatReach.Text.Blank

namespace NatReach.Text
variable {drop : Char → Bool} {front core back cs : List Char}

structure Kept (drop : Char → Bool) (core : List Char) : Prop where
  first : ∀ c, core.head? = some c → drop c = false
  last : ∀ c, core.getLast? = some c → drop c = false

theorem dropWhile_of_head? (first : ∀ c, cs.head? = some c → drop c = false) :
    cs.dropWhile drop = cs := by
  cases cs with
  | nil => rfl
  | cons c rest => exact List.dropWhile_cons_of_neg (by simp [first c rfl])

theorem trimBy_eq_rdropWhile (drop : Char → Bool) (cs : List Char) :
    trimBy drop cs = (cs.dropWhile drop).rdropWhile drop := rfl

theorem trimBy_eq_nil_iff : trimBy drop cs = [] ↔ ∀ c ∈ cs, drop c = true := by
  rw [trimBy_eq_rdropWhile, List.rdropWhile_eq_nil_iff]
  constructor
  · intro dropped c member
    rw [← List.takeWhile_append_dropWhile (p := drop) (l := cs), List.mem_append] at member
    exact member.elim List.mem_takeWhile_imp (dropped c)
  · intro dropped c member
    exact dropped c ((List.dropWhile_sublist drop).subset member)

theorem exists_trimBy (drop : Char → Bool) (cs : List Char) :
    ∃ front back, cs = front ++ trimBy drop cs ++ back ∧
      (∀ c ∈ front, drop c = true) ∧ ∀ c ∈ back, drop c = true :=
  ⟨cs.takeWhile drop, (cs.dropWhile drop).rtakeWhile drop, by
    rw [trimBy_eq_rdropWhile, List.append_assoc, List.rdropWhile_append_rtakeWhile,
      List.takeWhile_append_dropWhile],
    fun _ => List.mem_takeWhile_imp, fun _ => List.mem_rtakeWhile_imp⟩

theorem kept_trimBy (drop : Char → Bool) (cs : List Char) : Kept drop (trimBy drop cs) where
  first c first := by
    obtain ⟨back, parts⟩ := List.rdropWhile_prefix drop (cs.dropWhile drop)
    have start : (cs.dropWhile drop).head? = some c := by
      rw [← parts, List.head?_append, ← trimBy_eq_rdropWhile, first, Option.some_or]
    have stopped := List.head?_dropWhile_not drop cs
    rwa [start] at stopped
  last c last := by
    have some : trimBy drop cs ≠ [] := by
      rintro nothing
      simp [nothing] at last
    rw [List.getLast?_eq_some_getLast some, Option.some.injEq] at last
    rw [← last]
    exact Bool.eq_false_iff.2 (List.rdropWhile_last_not drop _ some)

theorem Kept.trimBy_append (kept : Kept drop core) (dropped : ∀ c ∈ front, drop c = true)
    (droppedToo : ∀ c ∈ back, drop c = true) : trimBy drop (front ++ core ++ back) = core := by
  by_cases nothing : core = []
  · subst nothing
    rw [trimBy_eq_nil_iff, List.append_nil]
    exact fun c member => (List.mem_append.1 member).elim (dropped c) (droppedToo c)
  · have start : ((core ++ back).dropWhile drop) = core ++ back := by
      refine dropWhile_of_head? fun c first => kept.first c ?_
      rwa [List.head?_append_of_ne_nil _ nothing] at first
    have ends : core.reverse.dropWhile drop = core.reverse :=
      dropWhile_of_head? fun c last => kept.last c (by rwa [List.head?_reverse] at last)
    rw [trimBy, List.append_assoc, List.dropWhile_append_of_pos dropped, start, List.reverse_append,
      List.dropWhile_append_of_pos (fun c member => droppedToo c (List.mem_reverse.1 member)), ends,
      List.reverse_reverse]

theorem trimBy_eq_iff :
    trimBy drop cs = core ↔
      Kept drop core ∧ ∃ front back, cs = front ++ core ++ back ∧
        (∀ c ∈ front, drop c = true) ∧ ∀ c ∈ back, drop c = true := by
  constructor
  · rintro rfl
    exact ⟨kept_trimBy drop cs, exists_trimBy drop cs⟩
  · rintro ⟨kept, front, back, rfl, dropped, droppedToo⟩
    exact kept.trimBy_append dropped droppedToo

theorem Kept.trimBy_self (kept : Kept drop core) : trimBy drop core = core :=
  trimBy_eq_iff.2 ⟨kept, [], [], (List.append_nil core).symm, nofun, nofun⟩

theorem mem_of_mem_trimBy {c : Char} (member : c ∈ trimBy drop cs) : c ∈ cs := by
  obtain ⟨front, back, parts, -⟩ := exists_trimBy drop cs
  rw [parts]
  exact List.mem_append_left _ (List.mem_append_right _ member)

end NatReach.Text
