import PackageAssay.Files.Disk
import PackageAssay.Manifest.Entry

/-!
# Tracked files

Tracking a file keeps its fingerprint and its times, so that it can be told later whether the file
was written. A file that is missing can be tracked as well.
-/

set_option autoImplicit false

namespace PackageAssay

structure TrackedFile where
  /-- The path relative to the test root. -/
  name : String
  path : Path
  fingerprint : String
  times : FileTimes
deriving DecidableEq, Repr

namespace TrackedFile

def ofEntry (disk : Disk) (root : Path) (entry : String) : TrackedFile :=
  let name := filenameOf entry
  let path := root.join name
  ⟨name, path, disk.fingerprint path, disk.timesOrZero path⟩

def isModified (tracked : TrackedFile) (disk : Disk) : Bool :=
  disk.fingerprint tracked.path != tracked.fingerprint ||
    (disk.timesOrZero tracked.path).content != tracked.times.content

def same (left right : TrackedFile) : Bool :=
  left.name == right.name && left.path.same right.path &&
    left.fingerprint == right.fingerprint && left.times == right.times

end TrackedFile

end PackageAssay
