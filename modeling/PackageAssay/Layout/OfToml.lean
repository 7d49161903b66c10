import PackageAssay.Error
import PackageAssay.Layout
import PackageAssay.Toml.Parse

set_option autoImplicit false

namespace PackageAssay.Layout

def setting (entries : Toml.Entries) (name default : String) : Except Error String :=
  match entries.lookup name with
  | none => .ok default
  | some (.text value) => .ok value
  | some _ => .error .layout

def ofToml (text : String) : Except Error Layout := do
  match Toml.parse? text with
  | none => throw .layout
  | some entries =>
      let defaults : Layout := {}
      return {
        dbpath := ← setting entries "dbpath" defaults.dbpath
        cachedir := ← setting entries "cachedir" defaults.cachedir
        pkgExtension := ← setting entries "pkg_extension" defaults.pkgExtension
        dbExtension := ← setting entries "db_extension" defaults.dbExtension
        pacnewSuffix := ← setting entries "pacnew_suffix" defaults.pacnewSuffix
        pacorigSuffix := ← setting entries "pacorig_suffix" defaults.pacorigSuffix
        pacsaveSuffix := ← setting entries "pacsave_suffix" defaults.pacsaveSuffix
        conffile := ← setting entries "conffile" defaults.conffile
        syncrepo := ← setting entries "syncrepo" defaults.syncrepo
        logfile := ← setting entries "logfile" defaults.logfile }

end PackageAssay.Layout
