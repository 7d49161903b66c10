import Mathlib.Data.List.Basic
import PackageAssay.Baseline
import PackageAssay.Proofs.JsonText
import PackageAssay.Proofs.NameMaps
import PackageAssay.Proofs.WrittenFiles
import PackageAssay.Rule.Context

set_option autoImplicit false

namespace PackageAssay

namespace Json

theorem textOf?_codesOf (text : String) : textOf? (codesOf text) = some text := by
  have characters (chars : List Char) : characters? (chars.map Char.toNat) = some chars := by
    induction chars with
    | nil => rfl
    | cons c chars ih =>
        have valid : c.toNat < 0xd800 ∨ 0xdfff < c.toNat := by
          rcases c.valid with low | high
          · exact .inl low
          · exact .inr high.1
        rw [List.map_cons, characters?.eq_def]
        simp only [if_pos valid, ih, Char.ofNat_toNat, Option.map_some]
  rw [textOf?, codesOf, characters, Option.map_some, String.ofList_toList]

theorem codesOf_small (text : String) : ∀ code ∈ codesOf text, code < 0x110000 := by
  intro code member
  obtain ⟨c, -, rfl⟩ := List.mem_map.1 member
  rcases c.valid with low | high
  · exact Nat.lt_trans low (by decide)
  · exact high.2

theorem writable_ofString (text : String) : Writable (ofString text) :=
  .string _ (codesOf_small text)

theorem writable_ofMembers (members : List (String × Json))
    (each : ∀ member ∈ members, Writable member.2) : Writable (ofMembers members) := by
  refine .object _ ?_ ?_
  · intro member belongs
    obtain ⟨held, -, rfl⟩ := List.mem_map.1 belongs
    exact codesOf_small held.1
  · intro member belongs
    obtain ⟨held, original, rfl⟩ := List.mem_map.1 belongs
    exact each held original

theorem string?_ofString (text : String) : (ofString text).string? = some text :=
  textOf?_codesOf text

theorem int64?_ofInt (value : Int64) : (ofInt value.toInt).int64? = some value := by
  -- A minus before a zero would make the numeral a float.
  have notMinusZero : toString value.toInt ≠ "-0" := by
    intro same
    have read := Numeral.integer?_toString value.toInt
    rw [same] at read
    have zero : value.toInt = 0 := (Option.some.inj read).symm
    rw [zero] at same
    exact absurd same (by decide)
  rw [ofInt, int64?, int?, if_neg notMinusZero, Numeral.integer?_toString]
  exact Numeral.toInt64?_toInt value

theorem mapM_eq_some_map {α β γ : Type} (items : List α) (f : β → Option γ) (g : α → β) (h : α → γ)
    (each : ∀ item ∈ items, f (g item) = some (h item)) :
    (items.map g).mapM f = some (items.map h) := by
  induction items with
  | nil => rfl
  | cons item items ih =>
      rw [List.map_cons, List.mapM_cons, each item List.mem_cons_self,
        ih fun other member => each other (List.mem_cons_of_mem _ member)]
      rfl

theorem list?_array {α : Type} (items : List α) (toJson : α → Json) (ofJson? : Json → Option α)
    (each : ∀ item ∈ items, ofJson? (toJson item) = some item) :
    list? ofJson? (.array (items.map toJson)) = some items := by
  rw [list?, mapM_eq_some_map items ofJson? toJson id each, List.map_id]

theorem members?_ofMembers (members : List (String × Json)) :
    (ofMembers members).members? = some members := by
  rw [ofMembers, members?, mapM_eq_some_map members _ _ id, List.map_id]
  intro member _
  rw [textOf?_codesOf]
  rfl

theorem fields?_ofMembers (names : List String) (members : List (String × Json))
    (named : members.map Prod.fst = names) (distinct : names.Nodup) :
    (ofMembers members).fields? names = some (members.map Prod.snd) := by
  subst named
  change (ofMembers members).members?.bind _ = _
  rw [members?_ofMembers, Option.bind_some, mapM_eq_some_map members _ Prod.fst Prod.snd]
  intro member belongs
  -- A field that stands twice is refused, so the names have to tell the members apart.
  have alone : (members.filter fun other => other.1 == member.1) = [member] := by
    obtain ⟨before, after, rfl⟩ := List.append_of_mem belongs
    rw [List.map_append, List.map_cons, List.nodup_append, List.nodup_cons] at distinct
    obtain ⟨-, ⟨notAfter, -⟩, apart⟩ := distinct
    have none (others : List (String × Json)) (absent : member.1 ∉ others.map Prod.fst) :
        (others.filter fun other => other.1 == member.1) = [] := by
      rw [List.filter_eq_nil_iff]
      intro other held
      rw [beq_iff_eq]
      rintro same
      exact absent (same ▸ List.mem_map_of_mem held)
    have notBefore : member.1 ∉ before.map Prod.fst := fun held =>
      apart _ held _ List.mem_cons_self rfl
    rw [List.filter_append, none before notBefore, List.nil_append, List.filter_cons,
      if_pos (beq_self_eq_true _), none after notAfter]
  rw [alone]

end Json

theorem FileTimes.ofJson?_toJson (times : FileTimes) : ofJson? times.toJson = some times := by
  have fields : times.toJson.fields? fieldNames =
      some ([times.accessed, times.modified, times.changed].map fun time => .ofInt time.toInt) :=
    Json.fields?_ofMembers _ _ rfl (by decide)
  rw [ofJson?, fields, Option.bind_eq_bind, Option.bind_some,
    Json.mapM_eq_some_map _ Json.int64? _ id fun time _ => Json.int64?_ofInt time]
  rfl

theorem FileTimes.writable_toJson (times : FileTimes) : times.toJson.Writable := by
  refine Json.writable_ofMembers _ ?_
  simp [fieldNames, Json.Writable.integer]

theorem SectionState.ofJson?_toJson (state : SectionState) : ofJson? state.toJson = some state := by
  have fields : state.toJson.fields? ["fingerprint", "times"] =
      some [.ofString state.fingerprint, state.times.toJson] :=
    Json.fields?_ofMembers _ _ rfl (by decide)
  rw [ofJson?, fields]
  simp only [Option.bind_eq_bind, Option.bind_some, Json.string?_ofString,
    FileTimes.ofJson?_toJson]

theorem SectionState.writable_toJson (state : SectionState) : state.toJson.Writable := by
  refine Json.writable_ofMembers _ ?_
  simp [Json.writable_ofString, FileTimes.writable_toJson]

theorem TrackedFile.ofJson?_toJson (tracked : TrackedFile) :
    ofJson? tracked.toJson = some tracked := by
  have fields : tracked.toJson.fields? ["name", "path", "fingerprint", "times"] =
      some [.ofString tracked.name, .ofString tracked.path.text, .ofString tracked.fingerprint,
        tracked.times.toJson] :=
    Json.fields?_ofMembers _ _ rfl (by decide)
  rw [ofJson?, fields]
  simp only [Option.bind_eq_bind, Option.bind_some, Json.string?_ofString,
    FileTimes.ofJson?_toJson]

theorem TrackedFile.writable_toJson (tracked : TrackedFile) : tracked.toJson.Writable := by
  refine Json.writable_ofMembers _ ?_
  simp [Json.writable_ofString, FileTimes.writable_toJson]

theorem SectionKey.ofFileName?_fileName (key : SectionKey) :
    ofFileName? key.fileName = some key := by
  cases key <;> decide

namespace Snapshot

def copySection (source : Snapshot) (target : Snapshot) (key : SectionKey) : Snapshot :=
  match source.find? key with
  | some state => target.insert key state
  | none => target

theorem foldl_copySection (snapshot : Snapshot) :
    SectionKey.all.foldl (copySection snapshot) {} = snapshot := by
  rcases snapshot with ⟨desc, depends, files, install⟩
  cases desc <;> cases depends <;> cases files <;> cases install <;> rfl

theorem ofJson?_toJson (snapshot : Snapshot) : ofJson? snapshot.toJson = some snapshot := by
  have fields : snapshot.toJson.fields? ["sections"] = some [snapshot.sectionsJson] :=
    Json.fields?_ofMembers _ _ rfl (by decide)
  -- The sections come in the order of their keys, and each is put into what was read before it.
  have read (keys : List SectionKey) (target : Snapshot) :
      (keys.filterMap fun key =>
          (snapshot.find? key).map fun state => (key.fileName, state.toJson)).foldlM
        (fun target member => do
          return target.insert (← SectionKey.ofFileName? member.1)
            (← SectionState.ofJson? member.2)) target =
        some (keys.foldl (copySection snapshot) target) := by
    induction keys generalizing target with
    | nil => rfl
    | cons key keys ih =>
        rw [List.filterMap_cons, List.foldl_cons, copySection]
        cases snapshot.find? key with
        | none => exact ih target
        | some state =>
            simp only [Option.map_some, List.foldlM_cons, SectionKey.ofFileName?_fileName,
              SectionState.ofJson?_toJson, Option.bind_eq_bind, Option.bind_some, Option.pure_def]
            exact ih (target.insert key state)
  rw [ofJson?, fields]
  simp only [Option.bind_eq_bind, Option.bind_some]
  rw [ofSectionsJson?, sectionsJson, Json.members?_ofMembers, Option.bind_eq_bind,
    Option.bind_some, read, foldl_copySection]

theorem writable_toJson (snapshot : Snapshot) : snapshot.toJson.Writable := by
  refine Json.writable_ofMembers _ ?_
  simp only [List.mem_singleton, forall_eq]
  refine Json.writable_ofMembers _ ?_
  intro member belongs
  obtain ⟨key, -, found⟩ := List.mem_filterMap.1 belongs
  obtain ⟨state, -, rfl⟩ := Option.map_eq_some_iff.1 found
  exact state.writable_toJson

end Snapshot

namespace Baseline

theorem writable_toJson (baseline : Baseline) : baseline.toJson.Writable := by
  refine Json.writable_ofMembers _ ?_
  intro member belongs
  rcases List.mem_cons.1 belongs with rfl | belongs
  · refine Json.writable_ofMembers _ ?_
    intro member belongs
    obtain ⟨entry, -, rfl⟩ := List.mem_map.1 belongs
    exact entry.2.writable_toJson
  · rcases List.mem_singleton.1 belongs with rfl
    refine .array _ ?_
    intro item belongs
    obtain ⟨tracked, -, rfl⟩ := List.mem_map.1 belongs
    exact tracked.writable_toJson

theorem packagesOfJson?_ofMembers (packages : NameMap Snapshot) :
    packagesOfJson? (.ofMembers (packages.entries.map fun entry => (entry.1, entry.2.toJson))) =
      some packages := by
  rw [packagesOfJson?, Json.members?_ofMembers, Option.bind_eq_bind, Option.bind_some,
    Json.mapM_eq_some_map _ _ _ id, List.map_id]
  · simp only [Option.bind_eq_bind, Option.bind_some, NameMap.ofList_entries, Option.pure_def]
  · intro entry _
    rw [Snapshot.ofJson?_toJson]
    rfl

theorem ofJson?_toJson (baseline : Baseline) : ofJson? baseline.toJson = some baseline := by
  have fields : baseline.toJson.fields? ["packages", "files"] =
      some [.ofMembers (baseline.packages.entries.map fun entry => (entry.1, entry.2.toJson)),
        .array (baseline.files.map TrackedFile.toJson)] :=
    Json.fields?_ofMembers _ _ rfl (by decide)
  rw [ofJson?, fields]
  simp only [Option.bind_eq_bind, Option.bind_some, packagesOfJson?_ofMembers,
    Json.list?_array _ _ _ fun tracked _ => TrackedFile.ofJson?_toJson tracked]

theorem parse_render (baseline : Baseline) : parse baseline.render = .ok baseline := by
  rw [parse, render, Json.parse?_pretty baseline.writable_toJson, Option.bind_some,
    ofJson?_toJson]

variable {baseline : Baseline} {path : Path} {disk later : Disk}

theorem read_of_save (saved : baseline.save path disk = .ok () later) :
    later.read path = .ok (.ofText baseline.render) := by
  rw [save, Operation.bind_eq_ok_iff] at saved
  obtain ⟨-, prepared, -, wrote⟩ := saved
  exact Disk.read_of_writeFile wrote

theorem load_of_read (read : later.read path = .ok (.ofText baseline.render)) :
    load later path = .ok baseline := by
  have text : later.readText path = .ok baseline.render := by
    rw [Disk.readText, read]
    simp only [bind, Except.bind, text?_ofText]
    rfl
  rw [load, text]
  simp only [Except.mapError, bind, Except.bind]
  exact parse_render baseline

end Baseline

def Context.comparedTo (context : Context) (handle : Repository) (baseline : Baseline) : Context :=
  { context with
    repositories := context.repositories.insert Repository.localName (baseline.restore handle)
    tracked := baseline.files }

/-- A saved baseline is loaded as it was, so it is saved as the same bytes again, a text that holds
a baseline may be replaced by the saved one, and rules come out alike. -/
theorem saved_baseline_reloads (baseline : Baseline) (path : Path) (disk later : Disk)
    (saved : baseline.save path disk = .ok () later) :
    Baseline.load later path = .ok baseline ∧
    (∀ reloaded again other final, Baseline.load later path = .ok reloaded →
      reloaded.save again other = .ok () final →
      ∃ content, later.read path = .ok content ∧ final.read again = .ok content) ∧
    (∀ text, Baseline.parse text = .ok baseline →
      Baseline.load later path = Baseline.parse text) ∧
    ∀ reloaded (context : Context) handle (rules : RuleSet),
      Baseline.load later path = .ok reloaded →
      rules.check (context.comparedTo handle reloaded).outcome =
        rules.check (context.comparedTo handle baseline).outcome := by
  have read := Baseline.read_of_save saved
  have loaded := Baseline.load_of_read read
  refine ⟨loaded, ?_, ?_, ?_⟩
  · intro reloaded again other final same savedAgain
    rw [loaded] at same
    cases same
    exact ⟨_, read, Baseline.read_of_save savedAgain⟩
  · intro text parsed
    rw [loaded, parsed]
  · intro reloaded context handle rules same
    rw [loaded] at same
    cases same
    rfl

def extremeBaseline : Baseline where
  packages := .ofList [
    ("a\"b\\", { desc := some ⟨"", ⟨Int64.minValue, -1, 0⟩⟩, install := some ⟨"é\n\x7f", {}⟩ }),
    ("", {})]
  files := [⟨"\x1f", ⟨"/tmp/𝄞"⟩, "\t", ⟨Int64.maxValue, 10, -10⟩⟩]

theorem saved_baseline_reloads_extremeBaseline :
    ∃ later,
      extremeBaseline.save ⟨"state/base.json"⟩ { tree := .bare (.madeAt 1), now := 2 } = .ok () later ∧
      Baseline.load later ⟨"state/base.json"⟩ = .ok extremeBaseline := by
  have succeeds : Operation.succeeds (extremeBaseline.save ⟨"state/base.json"⟩)
      { tree := .bare (.madeAt 1), now := 2 } = true := by decide +kernel
  obtain ⟨⟨⟩, later, saved⟩ := (Operation.succeeds_iff _).1 succeeds
  exact ⟨later, saved, (saved_baseline_reloads _ _ _ later saved).1⟩

end PackageAssay
