import RouteView.Proofs.Settings.Loading

/-!
# Settings of a file

The text of a file is an object, whose entries lie over the defaults, or an array of all settings in the order of
their declaration (`readInOrder_declared`); with any other text, or none, there are no settings.  Variables of the
environment lie over what the file says, and a failure is that of the file, whatever the environment
(`ofFileWithEnvironment_layers`).
-/
set_option autoImplicit false
namespace RouteView.Settings

/-! ## Arrays of settings -/

/-- The settings in the order of their declaration. -/
def listed (s : Settings) : List Value :=
  [.bool s.debug, .text s.bindAddress, .array (s.viewDirs.map .text), .text s.viewExtension,
    (s.layout.map Value.text).getD .null, .bool s.autoEscape, .text s.logLevel]

theorem eq_of_toData {s t : Settings}
    (same : ∀ key kind, kinds.get? key = some kind → t.toData.get? key = s.toData.get? key) : t = s := by
  have left : Overlaid [] s t := overlaid_iff.mpr same
  have right : Overlaid [] s s := overlaid_iff.mpr fun _ _ _ => rfl
  exact left.unique right

section InOrder
variable {total : Nat} {keys : List Text}

theorem readInOrder_cons {key : Text} {kind : Kind} (here : kinds.get? key = some kind) (s : Settings) (v : Value)
    (rest : List Value) :
    (∃ s' : Settings, readInOrder total s (key :: keys) (v :: rest) = readInOrder total s' keys rest ∧
      ∀ other, s'.toData.get? other = if key = other then some v else s.toData.get? other) ∨
    ∃ fault, readInOrder total s (key :: keys) (v :: rest) = .error fault ∧ kind.Refuses v fault := by
  rw [readInOrder]
  rcases readKey_known s here v with ⟨s', read, _, stored⟩ | ⟨fault, failed, refuses⟩
  · refine .inl ⟨s', by rw [read]; rfl, fun other => ?_⟩
    rw [stored, Dictionary.get?_insert]
  · exact .inr ⟨fault, by rw [failed]; rfl, refuses⟩

/-- The values are those of the settings that come out, and the keys that are not asked for keep theirs. -/
theorem readInOrder_eq_ok (distinct : keys.Nodup) (known : ∀ key ∈ keys, ∃ kind, kinds.get? key = some kind) :
    ∀ {s t : Settings} {items : List Value}, readInOrder total s keys items = .ok t ↔
      keys.map (fun key => t.toData.get? key) = items.map some ∧
        ∀ key kind, kinds.get? key = some kind → key ∉ keys → t.toData.get? key = s.toData.get? key := by
  induction keys with
  | nil =>
      intro s t items
      cases items with
      | nil =>
          rw [readInOrder, Except.ok.injEq]
          refine ⟨?_, fun ⟨_, same⟩ => (eq_of_toData fun key kind here => same key kind here (by simp)).symm⟩
          rintro rfl
          exact ⟨rfl, fun _ _ _ _ => rfl⟩
      | cons v rest => simp [readInOrder]
  | cons key keys ih =>
      obtain ⟨once, distinct⟩ := List.nodup_cons.mp distinct
      obtain ⟨⟨kind, here⟩, known⟩ := List.forall_mem_cons.mp known
      intro s t items
      cases items with
      | nil => simp [readInOrder]
      | cons v rest =>
          rw [List.map_cons, List.map_cons, List.cons.injEq]
          rcases readInOrder_cons here s v rest with ⟨s', step, stored⟩ | ⟨fault, stopped, refuses⟩
          · rw [step, ih distinct known]
            constructor
            · rintro ⟨values, frame⟩
              refine ⟨⟨?_, values⟩, fun other kind also behind => ?_⟩
              · rw [frame key kind here once, stored, if_pos rfl]
              · rw [List.mem_cons, not_or] at behind
                rw [frame other kind also behind.2, stored, if_neg (Ne.symm behind.1)]
            · rintro ⟨⟨value, values⟩, frame⟩
              refine ⟨values, fun other kind also behind => ?_⟩
              rw [stored]
              by_cases same : key = other
              · rw [if_pos same, ← same, value]
              · rw [if_neg same, frame other kind also (by simp [Ne.symm same, behind])]
          · rw [stopped]
            refine ⟨by nofun, fun ⟨⟨value, _⟩, _⟩ => ?_⟩
            obtain ⟨w, found, holds⟩ := holds_toData t here
            cases value.symm.trans found
            exact absurd holds refuses.not_holds

theorem readInOrder_declared {s t : Settings} {items : List Value} :
    readInOrder total s declared items = .ok t ↔ items = t.listed := by
  have known : ∀ key ∈ declared, ∃ kind, kinds.get? key = some kind := by
    simp only [declared, List.forall_mem_cons]
    exact ⟨⟨_, rfl⟩, ⟨_, rfl⟩, ⟨_, rfl⟩, ⟨_, rfl⟩, ⟨_, rfl⟩, ⟨_, rfl⟩, ⟨_, rfl⟩, List.forall_mem_nil _⟩
  have all : ∀ key kind, kinds.get? key = some kind → key ∈ declared := by
    intro key kind here
    refine kinds_cases here ?_ ?_ ?_ ?_ ?_ ?_ ?_ <;> decide
  have values : declared.map (fun key => t.toData.get? key) = t.listed.map some := rfl
  rw [readInOrder_eq_ok (by decide) known, values, List.map_inj_right fun _ _ => Option.some.inj]
  refine ⟨fun ⟨same, _⟩ => same.symm, fun same => ⟨same.symm, fun key kind here absent => ?_⟩⟩
  exact absurd (all key kind here) absent

end InOrder

/-! ## What a file says -/

section Texts
variable {format : Format} {source : Text} {v : Value}

theorem ofText_eq_overDefaults (read : format.read? source = some v) :
    ofText format source = overDefaults format v := by
  rw [ofText, read]

theorem ofText_array {items : List Value} (read : format.read? source = some (.array items)) (s : Settings) :
    ofText format source = .ok s ↔ items = s.listed := by
  rw [ofText_eq_overDefaults read, overDefaults, mapError_eq_ok]
  exact readInOrder_declared

theorem ofText_other (read : format.read? source = some v) (object : ∀ o, v ≠ .object o)
    (array : ∀ items, v ≠ .array items) : ofText format source = .error (.configuration
      ("Failed to deserialize settings from " ++ format.name ++ ": " ++
        (SettingsFault.wrongType v "struct Settings").message)) := by
  rw [ofText_eq_overDefaults read]
  cases v with
  | object o => exact absurd rfl (object o)
  | array items => exact absurd rfl (array items)
  | _ => rfl

end Texts

/-! ## Variables over a file -/

/-- Settings of a file under an environment.  The file gives what its text says over the defaults, or a failure that
the environment does not change; each variable decides its own setting and nothing else; and the list of view
directories can be spelled with any white space and empty items. -/
theorem ofFileWithEnvironment_layers (tree : FileTree) (env : Environment) (format : Format) (path : Text) :
    (∀ fault, tree.read path = .error fault → ofFile tree format path = .error (.configuration
      ("Failed to read " ++ format.name ++ " file '" ++ path ++ "': " ++ fault.message))) ∧
    (∀ source, tree.read path = .ok source →
      (format.read? source = none → ∃ detail, ofFile tree format path = .error (.configuration detail)) ∧
      (∀ o, format.read? source = some (.object o) →
        (∀ below, ofFile tree format path = .ok below ↔ (∀ key, Accepts o key) ∧ Overlaid o default below) ∧
        ∀ fault, ofFile tree format path = .error fault ↔ ∃ complaint, Complains o complaint ∧ fault = .configuration
          ("Failed to deserialize settings from " ++ format.name ++ ": " ++ complaint.message)) ∧
      (∀ items, format.read? source = some (.array items) →
        ∀ below, ofFile tree format path = .ok below ↔ items = below.listed) ∧
      ∀ v, format.read? source = some v → (∀ o, v ≠ .object o) → (∀ items, v ≠ .array items) →
        ofFile tree format path = .error (.configuration ("Failed to deserialize settings from " ++ format.name ++
          ": " ++ (SettingsFault.wrongType v "struct Settings").message))) ∧
    (∀ fault, ofFileWithEnvironment tree env format path = .error fault ↔ ofFile tree format path = .error fault) ∧
    (∀ below, ofFile tree format path = .ok below →
      ∃ s, ofFileWithEnvironment tree env format path = .ok s ∧
        Layered env below s ∧ (∀ t, Layered env below t → t = s) ∧ s.override env = s) ∧
    (∀ other s t, ofFileWithEnvironment tree env format path = .ok s →
      ofFileWithEnvironment tree other format path = .ok t →
      ∀ key name, (key, name) ∈ overridable → env name = other name → s.toData.get? key = t.toData.get? key) ∧
    ∀ items dirs s, (∀ dir ∈ dirs, IsDirName dir) → Names items dirs →
      env "TRELLIS_VIEW_DIRS" = some (Text.join [','] items) →
      ofFileWithEnvironment tree env format path = .ok s → s.viewDirs = dirs := by
  refine ⟨fun fault unread => ?_, fun source found => ?_, fun fault => map_eq_error, fun below read => ?_,
    fun other s t left right key name entry same => ?_, fun items dirs s named names given loaded => ?_⟩
  · rw [ofFile, unread]
  · have whole : ofFile tree format path = ofText format source := by rw [ofFile, found]
    rw [whole]
    refine ⟨fun unparsed => ⟨_, by rw [ofText, unparsed]⟩, fun o read => ⟨ofText_eq_ok read, ofText_eq_error read⟩,
      fun items => ofText_array, fun v => ofText_other⟩
  · have layered := layered_override below env
    refine ⟨below.override env, map_eq_ok.mpr ⟨below, read, rfl⟩, layered,
      fun t also => also.unique layered, override_override below env⟩
  · obtain ⟨below, read, rfl⟩ := map_eq_ok.mp left
    obtain ⟨again, read', rfl⟩ := map_eq_ok.mp right
    cases read.symm.trans read'
    exact override_congr below entry same
  · obtain ⟨below, read, rfl⟩ := map_eq_ok.mp loaded
    rw [override, given]
    exact splitDirs_join names named

/-- The variable clears the layout of the file, and what neither names is the default. -/
theorem ofFileWithEnvironment_clears_layout :
    let source : Text := "\x7b\"debug\":false,\"layout\":\"l\"\x7d"
    let tree := FileTree.ofPaths [("a.json", .file (some source))]
    let env : Environment := fun name => if name = "TRELLIS_LAYOUT".toList then some [] else none
    let below : Settings := { default with debug := false, layout := some "l" }
    ofFile tree .json "a.json" = .ok below ∧
      ofFileWithEnvironment tree env .json "a.json" = .ok { below with layout := none } := by
  intro source tree env below
  let fields : Data := [("debug", .bool false), ("layout", .text "l")]
  obtain ⟨_, readable, _, layers, _⟩ := ofFileWithEnvironment_layers tree env .json "a.json"
  have written : (Value.object fields).json = source := by decide
  have read : Format.json.read? source = some (.object fields) := by
    rw [← written]
    refine (Value.readsBack_object fun field member => ?_).ofJson?
    simp only [fields, List.mem_cons, List.not_mem_nil, or_false] at member
    rcases member with rfl | rfl
    · exact Value.readsBack_bool false
    · exact Value.readsBack_text "l"
  have accepted : ∀ key, Accepts fields key := by
    intro key kind v known
    refine kinds_cases (motive := fun key kind => fields.get? key = some v → kind.Holds v) known ?_ ?_ ?_ ?_ ?_ ?_ ?_
    · nofun
    · nofun
    · rintro ⟨⟩
      exact .truth false
    · rintro ⟨⟩
      exact .someText "l"
    · nofun
    · nofun
    · nofun
  have overlaid : Overlaid fields default below := ⟨rfl, rfl, rfl, rfl, rfl, rfl, rfl⟩
  have loaded : ofFile tree .json "a.json" = .ok below :=
    (((readable source rfl).2.1 fields read).1 below).mpr ⟨accepted, overlaid⟩
  obtain ⟨s, done, _, unique, _⟩ := layers below loaded
  have cleared : Layered env below { below with layout := none } := layered_override below env
  rw [unique _ cleared]
  exact ⟨loaded, done⟩

end RouteView.Settings
