import PackageAssay.Database.Snapshot
import PackageAssay.Json.Value

set_option autoImplicit false

namespace PackageAssay

namespace FileTimes

def fieldNames : List String := ["atime", "mtime", "ctime"]

def toJson (times : FileTimes) : Json :=
  .ofMembers (fieldNames.zip
    ([times.accessed, times.modified, times.changed].map fun time => Json.ofInt time.toInt))

def ofJson? (value : Json) : Option FileTimes := do
  match ← (← value.fields? fieldNames).mapM Json.int64? with
  | [accessed, modified, changed] => some ⟨accessed, modified, changed⟩
  | _ => none

end FileTimes

namespace SectionState

def toJson (state : SectionState) : Json :=
  .ofMembers [("fingerprint", .ofString state.fingerprint), ("times", state.times.toJson)]

def ofJson? (value : Json) : Option SectionState := do
  match ← value.fields? ["fingerprint", "times"] with
  | [fingerprint, times] => some ⟨← fingerprint.string?, ← FileTimes.ofJson? times⟩
  | _ => none

end SectionState

namespace Snapshot

def sectionsJson (snapshot : Snapshot) : Json :=
  .ofMembers (SectionKey.all.filterMap fun key =>
    (snapshot.find? key).map fun state => (key.fileName, state.toJson))

/-- Of two members with one name the later one counts. -/
def ofSectionsJson? (value : Json) : Option Snapshot := do
  (← value.members?).foldlM (fun snapshot member => do
    return snapshot.insert (← SectionKey.ofFileName? member.1) (← SectionState.ofJson? member.2)) {}

def toJson (snapshot : Snapshot) : Json :=
  .ofMembers [("sections", snapshot.sectionsJson)]

def ofJson? (value : Json) : Option Snapshot := do
  match ← value.fields? ["sections"] with
  | [sections] => ofSectionsJson? sections
  | _ => none

end Snapshot

end PackageAssay
