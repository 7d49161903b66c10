import PackageAssay.Database.SectionKey
import PackageAssay.Files.Times

/-!
# Snapshots of database entries

A snapshot keeps a fingerprint and the file times of each file of an entry. Two snapshots tell
whether a file was written between them.
-/

set_option autoImplicit false

namespace PackageAssay

structure SectionState where
  fingerprint : String := ""
  times : FileTimes := {}
deriving DecidableEq, Repr

def SectionState.isZero (state : SectionState) : Bool := state.times.isZero

structure Snapshot where
  desc : Option SectionState := none
  depends : Option SectionState := none
  files : Option SectionState := none
  install : Option SectionState := none
deriving DecidableEq, Repr

namespace Snapshot

def find? (snapshot : Snapshot) : SectionKey → Option SectionState
  | .desc => snapshot.desc
  | .depends => snapshot.depends
  | .files => snapshot.files
  | .install => snapshot.install

def get (snapshot : Snapshot) (key : SectionKey) : SectionState :=
  (snapshot.find? key).getD {}

def insert (snapshot : Snapshot) (key : SectionKey) (state : SectionState) : Snapshot :=
  match key with
  | .desc => { snapshot with desc := some state }
  | .depends => { snapshot with depends := some state }
  | .files => { snapshot with files := some state }
  | .install => { snapshot with install := some state }

theorem find?_insert (snapshot : Snapshot) (key other : SectionKey) (state : SectionState) :
    (snapshot.insert key state).find? other =
      if other = key then some state else snapshot.find? other := by
  cases key <;> cases other <;> rfl

/-- Whether a section was written between two snapshots. The install file, which an entry need not
have, does not count when it is absent from both. -/
def sectionChanged (old new : Snapshot) (key : SectionKey) : Bool :=
  let before := old.get key
  let after := new.get key
  if key = .install ∧ before.isZero ∧ after.isZero then false
  else before.times.content != after.times.content

def changedSections (old new : Snapshot) : Nat :=
  (SectionKey.all.filter (sectionChanged old new)).length

def isModified (old new : Snapshot) : Bool := decide (0 < changedSections old new)

end Snapshot

end PackageAssay
