set_option autoImplicit false

namespace PackageAssay

/-- Paths and file name endings that the package manager uses. Paths are relative to the test
root, and the defaults are those of pacman-g2. -/
structure Layout where
  dbpath : String := "var/lib/pacman-g2"
  cachedir : String := "var/cache/pacman-g2/pkg"
  pkgExtension : String := ".fpm"
  dbExtension : String := ".fdb"
  pacnewSuffix : String := ".pacnew"
  pacorigSuffix : String := ".pacorig"
  pacsaveSuffix : String := ".pacsave"
  conffile : String := "etc/pacman-g2.conf"
  syncrepo : String := "var/pub"
  logfile : String := "var/log/pactest.log"
deriving DecidableEq, Repr

namespace Layout

def settings (layout : Layout) : List (String × String) := [
  ("dbpath", layout.dbpath),
  ("cachedir", layout.cachedir),
  ("pkg_extension", layout.pkgExtension),
  ("db_extension", layout.dbExtension),
  ("pacnew_suffix", layout.pacnewSuffix),
  ("pacorig_suffix", layout.pacorigSuffix),
  ("pacsave_suffix", layout.pacsaveSuffix),
  ("conffile", layout.conffile),
  ("syncrepo", layout.syncrepo),
  ("logfile", layout.logfile)]

end Layout

end PackageAssay
