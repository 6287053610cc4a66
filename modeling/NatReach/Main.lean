import NatReach.Config.Path
import NatReach.Service

namespace NatReach.CommandLine

inductive Command where
  | run
  | showConfig
deriving DecidableEq, Repr

structure Arguments where
  configPath : String := "~/.natreach/config.toml"
  command : Command := .run
deriving DecidableEq, Repr

def Arguments.read? (arguments : Arguments) : List String → Option Arguments
  | [] => some arguments
  | ["run"] => some { arguments with command := .run }
  | ["show-config"] => some { arguments with command := .showConfig }
  | "--config" :: path :: rest => read? { arguments with configPath := path } rest
  | "-c" :: path :: rest => read? { arguments with configPath := path } rest
  | _ => none

def usage : String := "usage: natreach [--config PATH] [run | show-config]"

def shown (config : Config) : Except String String :=
  match config.toml? with
  | some text => .ok text
  | none => .error "a number of the configuration is too large for TOML"

def prepared (config : Config) : Except String (Endpoint × SocketAddress) :=
  (do return (← config.advertised, ← config.discovery.bind)).mapError ConfigError.message

def readFile? (path : String) : IO (Option (List UInt8)) := do
  try
    return some (← IO.FS.readBinFile path).toList
  catch
    | .noFileOrDirectory .. => return none
    | error => throw error

def execute (arguments : Arguments) : IO Unit := do
  let path := ConfigPath.expand (← IO.getEnv "HOME") arguments.configPath
  let config ← IO.ofExcept ((Config.load (← readFile? path)).mapError Config.FileError.message)
  match arguments.command with
  | .showConfig => IO.println (← IO.ofExcept (shown config))
  | .run =>
    let (home, bind) ← IO.ofExcept (prepared config)
    (Service.run config home bind).block

end NatReach.CommandLine

open NatReach CommandLine in
def main (arguments : List String) : IO UInt32 := do
  match Arguments.read? {} arguments with
  | none =>
    IO.eprintln usage
    return 2
  | some arguments =>
    execute arguments
    return 0
