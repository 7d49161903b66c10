import PackageAssay.Files.Path

set_option autoImplicit false

namespace PackageAssay

inductive Command where
  | dump (package repository : String)
  | list (repository : String)
  | check (exitCode : Int32) (baseline : Option Path) (rules : List String)
  | snapshot (output : Path) (files : List String)
  | gensync (repository : String)
  | inspect (archive : Path)
  | expand (files : List String)
deriving DecidableEq, Repr

structure Invocation where
  root : Path
  layoutFile : Option Path
  command : Command
deriving DecidableEq, Repr

end PackageAssay
