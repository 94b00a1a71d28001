import RouteView.Proofs.Settings.Layers
import RouteView.Proofs.Settings.Overlay
import RouteView.Proofs.Value.ReadBack

/-!
# Settings from a text

A text that is an object changes exactly the settings it names: what it has under their keys counts in place of the
defaults, and the first value that is not of the kind of its key is refused (`ofText_object`).  The rest of the object
does not count, and neither does what stands in objects inside of it (`outline`).
-/
set_option autoImplicit false
namespace RouteView

mutual

/-- The value without the entries of the objects in it. -/
def Value.outline : Value → Value
  | .array items => .array (outlines items)
  | .object _ => .object []
  | other => other

def Value.outlines : List Value → List Value
  | [] => []
  | item :: rest => item.outline :: outlines rest

end

def SettingsFault.outline : SettingsFault → SettingsFault
  | wrongType found expected => wrongType found.outline expected
  | other => other

theorem SettingsFault.message_outline (fault : SettingsFault) : fault.outline.message = fault.message := by
  cases fault with
  | wrongType found expected => cases found <;> rfl
  | _ => rfl

theorem Value.outlines_append (first second : List Value) :
    outlines (first ++ second) = outlines first ++ outlines second := by
  induction first with
  | nil => rfl
  | cons item rest ih => rw [List.cons_append, outlines, outlines, ih, List.cons_append]

theorem Value.outlines_texts (texts : List Text) : outlines (texts.map .text) = texts.map .text := by
  induction texts with
  | nil => rfl
  | cons text rest ih => rw [List.map_cons, outlines, ih, outline.eq_def]

/-- Only arrays and objects differ from their outlines. -/
theorem Value.eq_of_outline {v w : Value} (array : ∀ items, w ≠ .array items) (object : ∀ fields, w ≠ .object fields)
    (h : v.outline = w) : v = w := by
  cases v with
  | array items => exact absurd h.symm (array _)
  | object fields => exact absurd h.symm (object _)
  | _ => exact h

namespace Settings

/-! ## Kinds and outlines -/

namespace Kind
variable {kind : Kind} {v w : Value} {fault other : SettingsFault}

theorem Holds.outline_eq (h : kind.Holds v) : v.outline = v := by
  cases h with
  | texts items => rw [Value.outline, Value.outlines_texts]
  | _ => rfl

theorem Refuses.outline (h : kind.Refuses v fault) : kind.Refuses v.outline fault.outline := by
  cases h with
  | truth apart => exact .truth fun b same => apart b (Value.eq_of_outline (by nofun) (by nofun) same)
  | text apart => exact .text fun t same => apart t (Value.eq_of_outline (by nofun) (by nofun) same)
  | optionalText present apart =>
      exact .optionalText (fun same => present (Value.eq_of_outline (by nofun) (by nofun) same))
        fun t same => apart t (Value.eq_of_outline (by nofun) (by nofun) same)
  | texts apart =>
      cases v with
      | array items => exact absurd rfl (apart items)
      | _ => exact .texts (by nofun)
  | @item before v after apart =>
      rw [Value.outline, Value.outlines_append, Value.outlines_texts, Value.outlines]
      exact .item fun t same => apart t (Value.eq_of_outline (by nofun) (by nofun) same)

/-- The first item of an array that is no text. -/
theorem first_item_unique {before before' : List Text} {after after' : List Value} (hv : ∀ t, v ≠ .text t)
    (hw : ∀ t, w ≠ .text t)
    (same : before.map Value.text ++ v :: after = before'.map Value.text ++ w :: after') : v = w := by
  induction before generalizing before' with
  | nil =>
      cases before' with
      | nil => exact (List.cons.inj same).1
      | cons t rest => exact absurd (List.cons.inj same).1 (hv t)
  | cons t rest ih =>
      cases before' with
      | nil => exact absurd (List.cons.inj same).1.symm (hw t)
      | cons t' rest' => exact ih (List.cons.inj same).2

theorem Refuses.unique (first : kind.Refuses v fault) (second : kind.Refuses v other) : fault = other := by
  cases first with
  | truth _ => cases second; rfl
  | text _ => cases second; rfl
  | optionalText _ _ => cases second; rfl
  | texts apart =>
      cases second with
      | texts _ => rfl
      | item _ => exact absurd rfl (apart _)
  | item hv =>
      generalize whole : List.map Value.text _ ++ _ = items at second
      cases second with
      | texts apart => exact absurd rfl (apart _)
      | item hw => rw [first_item_unique hv hw whole]

theorem holds_or_refuses (kind : Kind) (v : Value) : kind.Holds v ∨ ∃ fault, kind.Refuses v fault := by
  have of_reads : ∀ {α : Type} {kind : Kind} {form : α → Value} {outcome : Except SettingsFault α},
      ReadsAs kind form v outcome → kind.Holds v ∨ ∃ fault, kind.Refuses v fault := by
    rintro α kind form outcome (⟨a, _, _, holds⟩ | ⟨fault, _, refuses⟩)
    · exact .inl holds
    · exact .inr ⟨fault, refuses⟩
  cases kind with
  | truth => exact of_reads (readBool_as v)
  | text => exact of_reads (readString_as v)
  | texts => exact of_reads (readDirs_as v)
  | optionalText => exact of_reads (readLayout_as v)

/-- Values of one outline are both of a kind, or neither is. -/
theorem Holds.congr (same : v.outline = w.outline) (h : kind.Holds v) : kind.Holds w := by
  rcases kind.holds_or_refuses w with holds | ⟨fault, refuses⟩
  · exact holds
  · have refused := refuses.outline
    rw [← same, h.outline_eq] at refused
    exact absurd h refused.not_holds

end Kind

theorem Complains.unique {o : Data} {fault other : SettingsFault} (first : Complains o fault)
    (second : Complains o other) : fault = other := by
  obtain ⟨key, kind, v, known, found, refuses, earlier⟩ := first
  obtain ⟨key', kind', v', known', found', refuses', earlier'⟩ := second
  have same : key = key' := by
    refine Decidable.byContradiction fun apart => ?_
    by_cases lt : key < key'
    · exact refuses.not_holds (earlier' key lt kind v known found)
    · have gt : key' < key := Std.lt_of_le_of_ne (Std.not_lt.mp lt) (Ne.symm apart)
      exact refuses'.not_holds (earlier key' gt kind' v' known' found')
  subst same
  cases known.symm.trans known'
  cases found.symm.trans found'
  exact refuses.unique refuses'

/-! ## Settings under an object -/

/-- Settings under the entries of an object.  An array takes the place of the one below; null stands for no layout. -/
structure Overlaid (o : Data) (below s : Settings) : Prop where
  debug : Overridden (o.get? "debug") (fun v on => v = .bool on) below.debug s.debug
  bindAddress : Overridden (o.get? "bind_address") (fun v address => v = .text address)
    below.bindAddress s.bindAddress
  viewDirs : Overridden (o.get? "view_dirs") (fun v dirs => v = .array (dirs.map .text)) below.viewDirs s.viewDirs
  viewExtension : Overridden (o.get? "view_extension") (fun v extension => v = .text extension)
    below.viewExtension s.viewExtension
  layout : Overridden (o.get? "layout") (fun v layout => v = (layout.map Value.text).getD .null)
    below.layout s.layout
  autoEscape : Overridden (o.get? "auto_escape") (fun v on => v = .bool on) below.autoEscape s.autoEscape
  logLevel : Overridden (o.get? "log_level") (fun v level => v = .text level) below.logLevel s.logLevel

section Forms
variable {α : Type} {form : α → Value} {given : Option Value} {below value other : α}

theorem overridden_iff (injective : Function.Injective form) :
    Overridden given (fun v a => v = form a) below value ↔ some (form value) = given.or (some (form below)) := by
  cases given with
  | some v => simp [Overridden, eq_comm]
  | none => simp [Overridden, injective.eq_iff]

theorem Overridden.unique_form (injective : Function.Injective form)
    (first : Overridden given (fun v a => v = form a) below value)
    (second : Overridden given (fun v a => v = form a) below other) : value = other :=
  first.unique (fun _ _ _ hv hw => injective (hv.symm.trans hw)) second

theorem injective_bool : Function.Injective Value.bool := fun _ _ same => by cases same; rfl

theorem injective_text : Function.Injective Value.text := fun _ _ same => by cases same; rfl

theorem injective_texts : Function.Injective fun dirs : List Text => Value.array (dirs.map .text) := by
  intro dirs dirs' same
  simp only [Value.array.injEq] at same
  exact (List.map_inj_right fun _ _ => (injective_text ·)).mp same

theorem injective_layout : Function.Injective fun layout : Option Text => (layout.map Value.text).getD .null := by
  intro layout layout' same
  cases layout <;> cases layout' <;> cases same <;> rfl

end Forms

theorem overlaid_iff {o : Data} {below s : Settings} : Overlaid o below s ↔
    ∀ key kind, kinds.get? key = some kind → s.toData.get? key = (o.get? key).or (below.toData.get? key) := by
  refine ⟨fun h key kind known => ?_, fun h => ?_⟩
  · refine kinds_cases known ?_ ?_ ?_ ?_ ?_ ?_ ?_
    · exact (overridden_iff injective_bool).mp h.autoEscape
    · exact (overridden_iff injective_text).mp h.bindAddress
    · exact (overridden_iff injective_bool).mp h.debug
    · exact (overridden_iff injective_layout).mp h.layout
    · exact (overridden_iff injective_text).mp h.logLevel
    · exact (overridden_iff injective_texts).mp h.viewDirs
    · exact (overridden_iff injective_text).mp h.viewExtension
  · exact
      { debug := (overridden_iff injective_bool).mpr (h "debug" .truth rfl)
        bindAddress := (overridden_iff injective_text).mpr (h "bind_address" .text rfl)
        viewDirs := (overridden_iff injective_texts).mpr (h "view_dirs" .texts rfl)
        viewExtension := (overridden_iff injective_text).mpr (h "view_extension" .text rfl)
        layout := (overridden_iff injective_layout).mpr (h "layout" .optionalText rfl)
        autoEscape := (overridden_iff injective_bool).mpr (h "auto_escape" .truth rfl)
        logLevel := (overridden_iff injective_text).mpr (h "log_level" .text rfl) }

theorem Overlaid.unique {o : Data} {below s t : Settings} (first : Overlaid o below s) (second : Overlaid o below t) :
    s = t := by
  have debug : s.debug = t.debug := first.debug.unique_form injective_bool second.debug
  have bindAddress : s.bindAddress = t.bindAddress := first.bindAddress.unique_form injective_text second.bindAddress
  have viewDirs : s.viewDirs = t.viewDirs := first.viewDirs.unique_form injective_texts second.viewDirs
  have viewExtension : s.viewExtension = t.viewExtension :=
    first.viewExtension.unique_form injective_text second.viewExtension
  have layout : s.layout = t.layout := first.layout.unique_form injective_layout second.layout
  have autoEscape : s.autoEscape = t.autoEscape := first.autoEscape.unique_form injective_bool second.autoEscape
  have logLevel : s.logLevel = t.logLevel := first.logLevel.unique_form injective_text second.logLevel
  cases s
  cases t
  simp_all

/-! ## Texts that are objects -/

section Texts
variable {format : Format} {source source' : Text} {o o' : Data}

/-- A text that is an object either lays it over the defaults or is refused. -/
theorem ofText_cases (read : format.read? source = some (.object o)) :
    (∃ s, ofText format source = .ok s ∧ (∀ key, Accepts o key) ∧ Overlaid o default s) ∨
      ∃ fault, ofText format source = .error (.configuration
        ("Failed to deserialize settings from " ++ format.name ++ ": " ++ fault.message)) ∧ Complains o fault := by
  have whole : ofText format source = overDefaults format (.object o) := by rw [ofText, read]
  rw [whole, overDefaults]
  rcases lays_merged (Format.ascending_of_read read) with ⟨s, done, accepts, values⟩ | ⟨fault, failed, complains⟩
  · exact .inl ⟨s, by rw [done]; rfl, accepts, overlaid_iff.mpr values⟩
  · exact .inr ⟨fault, by rw [failed]; rfl, complains⟩

theorem ofText_eq_ok (read : format.read? source = some (.object o)) (s : Settings) :
    ofText format source = .ok s ↔ (∀ key, Accepts o key) ∧ Overlaid o default s := by
  rcases ofText_cases read with ⟨t, done, accepts, overlaid⟩ | ⟨fault, failed, complains⟩
  · rw [done, Except.ok.injEq]
    refine ⟨?_, fun ⟨_, also⟩ => overlaid.unique also⟩
    rintro rfl
    exact ⟨accepts, overlaid⟩
  · rw [failed]
    exact ⟨by nofun, fun ⟨accepts, _⟩ => absurd accepts complains.not_accepts⟩

theorem ofText_eq_error (read : format.read? source = some (.object o)) (fault : Fault) :
    ofText format source = .error fault ↔ ∃ complaint, Complains o complaint ∧ fault = .configuration
      ("Failed to deserialize settings from " ++ format.name ++ ": " ++ complaint.message) := by
  rcases ofText_cases read with ⟨s, done, accepts, _⟩ | ⟨found, failed, complains⟩
  · rw [done]
    exact ⟨by nofun, fun ⟨_, complains, _⟩ => absurd accepts complains.not_accepts⟩
  · rw [failed, Except.error.injEq]
    refine ⟨fun same => ⟨found, complains, same.symm⟩, ?_⟩
    rintro ⟨other, also, rfl⟩
    rw [complains.unique also]

/-- The objects have values of the same outlines under the keys of the settings. -/
def Alike (o o' : Data) : Prop :=
  ∀ key kind, kinds.get? key = some kind → (o.get? key).map Value.outline = (o'.get? key).map Value.outline

theorem Alike.symm (h : Alike o o') : Alike o' o := fun key kind known => (h key kind known).symm

theorem Alike.accepts {key : Text} (h : Alike o o') (accepts : Accepts o key) : Accepts o' key := by
  intro kind w known found
  have same := h key kind known
  rw [found] at same
  obtain ⟨v, given, outlined⟩ := Option.map_eq_some_iff.mp same
  exact (accepts kind v known given).congr outlined

/-- Accepted values are all that their outlines show. -/
theorem Alike.overlaid {below s : Settings} (h : Alike o o') (accepts : ∀ key, Accepts o key)
    (overlaid : Overlaid o below s) : Overlaid o' below s := by
  rw [overlaid_iff] at overlaid ⊢
  intro key kind known
  rw [overlaid key kind known]
  have same := h key kind known
  have shown : ∀ {p : Data}, Accepts p key → (p.get? key).map Value.outline = p.get? key := by
    intro p all
    cases found : p.get? key with
    | none => rfl
    | some v => exact congrArg some (all kind v known found).outline_eq
  rw [shown (accepts key), shown (h.accepts (accepts key))] at same
  rw [same]

theorem Alike.complains {fault : SettingsFault} (h : Alike o o') (complains : Complains o fault) :
    ∃ other, Complains o' other ∧ other.message = fault.message := by
  obtain ⟨key, kind, v, known, found, refuses, earlier⟩ := complains
  have same := h key kind known
  rw [found] at same
  obtain ⟨w, given, outlined⟩ := Option.map_eq_some_iff.mp same.symm
  rcases kind.holds_or_refuses w with holds | ⟨other, refused⟩
  · exact absurd (holds.congr outlined) refuses.not_holds
  · refine ⟨other, ⟨key, kind, w, known, given, refused, fun before lt => h.accepts (earlier before lt)⟩, ?_⟩
    have shown : other.outline = fault.outline := (outlined ▸ refused.outline).unique refuses.outline
    rw [← other.message_outline, shown, fault.message_outline]

theorem ofText_congr (read : format.read? source = some (.object o)) (read' : format.read? source' = some (.object o'))
    (alike : Alike o o') : ofText format source = ofText format source' := by
  rcases ofText_cases read with ⟨s, done, accepts, overlaid⟩ | ⟨fault, failed, complains⟩
  · rw [done, (ofText_eq_ok read' s).mpr ⟨fun key => alike.accepts (accepts key), alike.overlaid accepts overlaid⟩]
  · obtain ⟨other, also, same⟩ := alike.complains complains
    rw [failed, (ofText_eq_error read' _).mpr ⟨other, also, rfl⟩, same]

end Texts

/-! ## The text of settings -/

theorem readsBack_setting {depth : Nat} (s : Settings) {field : Text × Value} (member : field ∈ s.toData) :
    Value.ReadsBack (depth + 1) field.2.json field.2 := by
  have texts : ∀ item ∈ s.viewDirs.map Value.text, Value.ReadsBack depth item.json item := by
    intro item member
    obtain ⟨t, _, rfl⟩ := List.mem_map.mp member
    exact Value.readsBack_text t
  simp only [toData, List.mem_cons, List.not_mem_nil, or_false] at member
  rcases member with rfl | rfl | rfl | rfl | rfl | rfl | rfl
  · exact Value.readsBack_bool _
  · exact Value.readsBack_text _
  · exact Value.readsBack_bool _
  · cases s.layout with
    | none => exact Value.readsBack_null
    | some t => exact Value.readsBack_text t
  · exact Value.readsBack_text _
  · exact Value.readsBack_array texts
  · exact Value.readsBack_text _

/-- Settings that are written in whatever order of their keys are read back. -/
theorem ofText_json (s : Settings) {fields : Data} (perm : fields.Perm s.toData) :
    ofText .json (Value.object fields).json = .ok s := by
  have distinct : (Dictionary.keys fields).Nodup :=
    (perm.map Prod.fst).nodup_iff.mpr (ascending_toData s).nodup
  have read : Format.json.read? (Value.object fields).json = some (.object (Dictionary.ofList fields)) :=
    (Value.readsBack_object fun field member => readsBack_setting s (perm.mem_iff.mp member)).ofJson?
  have values : ∀ key, (Dictionary.ofList fields).get? key = s.toData.get? key := by
    intro key
    rw [Dictionary.get?_ofList distinct, Dictionary.get?_perm perm distinct]
  refine (ofText_eq_ok read s).mpr ⟨fun key kind v known found => ?_, overlaid_iff.mpr fun key kind known => ?_⟩
  · obtain ⟨w, stored, holds⟩ := holds_toData s known
    rw [values, stored] at found
    cases found
    exact holds
  · obtain ⟨w, stored, _⟩ := holds_toData s known
    rw [values, stored]
    rfl

theorem overDefaults_eq_ok {format other : Format} {v : Value} {s : Settings} :
    overDefaults format v = .ok s ↔ overDefaults other v = .ok s := by
  rw [overDefaults, overDefaults, mapError_eq_ok, mapError_eq_ok]

/-- A text that is an object changes exactly the settings it names, or it is refused for the first value that is not
of the kind of its key; nothing else in it matters.  Settings that are written as JSON are read back, and a TOML
document comes to the settings of its value. -/
theorem ofText_object (format : Format) :
    (∀ source o, format.read? source = some (.object o) →
      (∀ s, ofText format source = .ok s ↔ (∀ key, Accepts o key) ∧ Overlaid o default s) ∧
      ((∀ key, Accepts o key) → ∃ s, ofText format source = .ok s) ∧
      ∀ fault, ofText format source = .error fault ↔ ∃ complaint, Complains o complaint ∧ fault = .configuration
        ("Failed to deserialize settings from " ++ format.name ++ ": " ++ complaint.message)) ∧
    (∀ source source' o o', format.read? source = some (.object o) → format.read? source' = some (.object o') →
      Alike o o' → ofText format source = ofText format source') ∧
    (∀ (s : Settings) (fields : Data), fields.Perm s.toData → ofText .json (Value.object fields).json = .ok s) ∧
    ∀ document v s, Format.toml.read? document = some v →
      (ofText .toml document = .ok s ↔ overDefaults .json v = .ok s) ∧
      ∀ source, Format.json.read? source = some v → (ofText .toml document = .ok s ↔ ofText .json source = .ok s) := by
  refine ⟨fun source o read => ⟨ofText_eq_ok read, fun accepts => ?_, ofText_eq_error read⟩,
    fun source source' o o' => ofText_congr, fun s fields => ofText_json s, fun document v s read => ?_⟩
  · rcases ofText_cases read with ⟨s, done, _⟩ | ⟨fault, _, complains⟩
    · exact ⟨s, done⟩
    · exact absurd accepts complains.not_accepts
  · have loaded : ofText .toml document = overDefaults .toml v := by rw [ofText, read]
    refine ⟨by rw [loaded]; exact overDefaults_eq_ok, fun source also => ?_⟩
    have loaded' : ofText .json source = overDefaults .json v := by rw [ofText, also]
    rw [loaded, loaded']
    exact overDefaults_eq_ok

/-- An array takes the place of the default, and an unknown key does not count. -/
example : overDefaults .json (.object
    [("debug", .bool false), ("theme", .object [("debug", .null)]), ("view_dirs", .array [])]) =
      .ok { default with debug := false, viewDirs := [] } := rfl

end Settings
end RouteView
