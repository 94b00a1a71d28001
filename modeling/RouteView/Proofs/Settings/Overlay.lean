import RouteView.Proofs.Value.Ascending

/-!
# Settings over the defaults

An object that is laid over the defaults decides exactly the settings whose keys it has.  Each key takes values of one
kind (`kinds`); the first key in ascending order whose value is of another kind decides the complaint (`Complains`).
`lays_merged` says that one of the two happens, and `Complains.not_accepts` that not both do.
-/
set_option autoImplicit false
namespace RouteView

namespace Settings

/-! ## The kinds of the keys -/

inductive Kind
  | truth
  | text
  | texts
  | optionalText

def kinds : Dictionary Kind :=
  [("auto_escape", .truth), ("bind_address", .text), ("debug", .truth), ("layout", .optionalText),
    ("log_level", .text), ("view_dirs", .texts), ("view_extension", .text)]

theorem keys_toData (s : Settings) : Dictionary.keys s.toData = Dictionary.keys kinds := rfl

theorem ascending_toData (s : Settings) : Dictionary.Ascending s.toData := by
  rw [Dictionary.Ascending, keys_toData]
  decide

@[elab_as_elim]
theorem kinds_cases {motive : Text → Kind → Prop} {key : Text} {kind : Kind} (known : kinds.get? key = some kind)
    (auto_escape : motive "auto_escape" .truth) (bind_address : motive "bind_address" .text)
    (debug : motive "debug" .truth) (layout : motive "layout" .optionalText) (log_level : motive "log_level" .text)
    (view_dirs : motive "view_dirs" .texts) (view_extension : motive "view_extension" .text) : motive key kind := by
  have entry := Dictionary.mem_of_get? known
  simp only [kinds, List.mem_cons, List.not_mem_nil, or_false, Prod.mk.injEq] at entry
  rcases entry with ⟨rfl, rfl⟩ | ⟨rfl, rfl⟩ | ⟨rfl, rfl⟩ | ⟨rfl, rfl⟩ | ⟨rfl, rfl⟩ | ⟨rfl, rfl⟩ | ⟨rfl, rfl⟩
  · exact auto_escape
  · exact bind_address
  · exact debug
  · exact layout
  · exact log_level
  · exact view_dirs
  · exact view_extension

namespace Kind

inductive Holds : Kind → Value → Prop
  | truth (b : Bool) : Holds truth (.bool b)
  | text (t : Text) : Holds text (.text t)
  | texts (items : List Text) : Holds texts (.array (items.map Value.text))
  | noText : Holds optionalText .null
  | someText (t : Text) : Holds optionalText (.text t)

/-- The complaint about a value that is not of a kind; in an array it is about the first item that is no text. -/
inductive Refuses : Kind → Value → SettingsFault → Prop
  | truth {v : Value} : (∀ b, v ≠ .bool b) → Refuses truth v (.wrongType v "a boolean")
  | text {v : Value} : (∀ t, v ≠ .text t) → Refuses text v (.wrongType v "a string")
  | optionalText {v : Value} : v ≠ .null → (∀ t, v ≠ .text t) → Refuses optionalText v (.wrongType v "a string")
  | texts {v : Value} : (∀ items, v ≠ .array items) → Refuses texts v (.wrongType v "a sequence")
  | item {before : List Text} {v : Value} {after : List Value} : (∀ t, v ≠ .text t) →
      Refuses texts (.array (before.map Value.text ++ v :: after)) (.wrongType v "path string")

theorem Refuses.not_holds {kind : Kind} {v : Value} {fault : SettingsFault} (h : Refuses kind v fault) :
    ¬ kind.Holds v := by
  intro holds
  cases h with
  | truth apart => cases holds; exact apart _ rfl
  | text apart => cases holds; exact apart _ rfl
  | optionalText present apart =>
      cases holds with
      | noText => exact present rfl
      | someText t => exact apart t rfl
  | texts apart => cases holds; exact apart _ rfl
  | @item before v after apart =>
      generalize whole : before.map Value.text ++ v :: after = values at holds
      cases holds with
      | texts items =>
          have member : v ∈ items.map Value.text := by rw [← whole]; simp
          obtain ⟨t, _, same⟩ := List.mem_map.mp member
          exact apart t same.symm

end Kind

/-- A reader gives the form of what it read, or the complaint of its kind. -/
def ReadsAs {α : Type} (kind : Kind) (form : α → Value) (v : Value) (outcome : Except SettingsFault α) : Prop :=
  (∃ a, outcome = .ok a ∧ v = form a ∧ kind.Holds v) ∨ ∃ fault, outcome = .error fault ∧ kind.Refuses v fault

theorem readBool_as (v : Value) : ReadsAs .truth Value.bool v (readBool v) := by
  cases v with
  | bool b => exact .inl ⟨b, rfl, rfl, .truth b⟩
  | _ => exact .inr ⟨_, rfl, .truth (fun _ => by nofun)⟩

theorem readString_as (v : Value) : ReadsAs .text Value.text v (readString v) := by
  cases v with
  | text t => exact .inl ⟨t, rfl, rfl, .text t⟩
  | _ => exact .inr ⟨_, rfl, .text (fun _ => by nofun)⟩

theorem readLayout_as (v : Value) :
    ReadsAs .optionalText (fun layout => (layout.map Value.text).getD .null) v (readLayout v) := by
  cases v with
  | null => exact .inl ⟨none, rfl, rfl, .noText⟩
  | text t => exact .inl ⟨some t, rfl, rfl, .someText t⟩
  | _ => exact .inr ⟨_, rfl, .optionalText (by nofun) (fun _ => by nofun)⟩

/-- The items of an array are texts up to the first one that is none. -/
theorem mapM_readText (items : List Value) :
    (∃ texts : List Text, items = texts.map Value.text ∧ items.mapM (readText "path string") = .ok texts) ∨
      ∃ (before : List Text) (v : Value) (after : List Value), items = before.map Value.text ++ v :: after ∧
        (∀ t, v ≠ .text t) ∧ items.mapM (readText "path string") = .error (.wrongType v "path string") := by
  induction items with
  | nil => exact .inl ⟨[], rfl, rfl⟩
  | cons item rest ih =>
      cases item with
      | text t =>
          rcases ih with ⟨texts, rfl, read⟩ | ⟨before, v, after, rfl, apart, read⟩
          · exact .inl ⟨t :: texts, rfl, by rw [List.mapM_cons, read]; rfl⟩
          · exact .inr ⟨t :: before, v, after, rfl, apart, by rw [List.mapM_cons, read]; rfl⟩
      | _ => exact .inr ⟨[], _, rest, rfl, (fun _ => by nofun), by rw [List.mapM_cons]; rfl⟩

theorem readDirs_as (v : Value) :
    ReadsAs .texts (fun dirs => .array (dirs.map Value.text)) v (readDirs v) := by
  cases v with
  | array items =>
      rcases mapM_readText items with ⟨texts, rfl, read⟩ | ⟨before, v, after, rfl, apart, read⟩
      · exact .inl ⟨texts, read, rfl, .texts texts⟩
      · exact .inr ⟨_, read, .item apart⟩
  | _ => exact .inr ⟨_, rfl, .texts (fun _ => by nofun)⟩

/-! ## Reading keys -/

def Puts (kind : Kind) (key : Text) (v : Value) (s : Settings) (outcome : Except SettingsFault Settings) : Prop :=
  (∃ s', outcome = .ok s' ∧ kind.Holds v ∧ s'.toData = s.toData.insert key v) ∨
    ∃ fault, outcome = .error fault ∧ kind.Refuses v fault

theorem puts_of_reads {α : Type} {kind : Kind} {form : α → Value} {v : Value} {outcome : Except SettingsFault α}
    {key : Text} {s : Settings} {put : α → Settings} (reads : ReadsAs kind form v outcome)
    (stores : ∀ a, (put a).toData = s.toData.insert key (form a)) :
    Puts kind key v s (do return put (← outcome)) := by
  rcases reads with ⟨a, rfl, rfl, holds⟩ | ⟨fault, rfl, refuses⟩
  · exact .inl ⟨put a, rfl, holds, stores a⟩
  · exact .inr ⟨fault, rfl, refuses⟩

theorem readKey_known (s : Settings) {key : Text} {kind : Kind} (known : kinds.get? key = some kind) (v : Value) :
    Puts kind key v s (readKey s key v) := by
  refine kinds_cases known ?_ ?_ ?_ ?_ ?_ ?_ ?_
  · exact puts_of_reads (readBool_as v) fun _ => rfl
  · exact puts_of_reads (readString_as v) fun _ => rfl
  · exact puts_of_reads (readBool_as v) fun _ => rfl
  · exact puts_of_reads (readLayout_as v) fun _ => rfl
  · exact puts_of_reads (readString_as v) fun _ => rfl
  · exact puts_of_reads (readDirs_as v) fun _ => rfl
  · exact puts_of_reads (readString_as v) fun _ => rfl

theorem readKey_unknown (s : Settings) {key : Text} (unknown : kinds.get? key = none) (v : Value) :
    readKey s key v = .ok s := by
  have apart : ∀ other kind, kinds.get? other = some kind → key ≠ other := by
    rintro other kind known rfl
    rw [unknown] at known
    cases known
  rw [readKey, if_neg (apart _ .truth rfl), if_neg (apart _ .text rfl), if_neg (apart _ .truth rfl),
    if_neg (apart _ .optionalText rfl), if_neg (apart _ .text rfl), if_neg (apart _ .texts rfl),
    if_neg (apart _ .text rfl)]

theorem holds_toData (s : Settings) {key : Text} {kind : Kind} (known : kinds.get? key = some kind) :
    ∃ v, s.toData.get? key = some v ∧ kind.Holds v := by
  refine kinds_cases known ?_ ?_ ?_ ?_ ?_ ?_ ?_
  · exact ⟨_, rfl, .truth _⟩
  · exact ⟨_, rfl, .text _⟩
  · exact ⟨_, rfl, .truth _⟩
  · refine ⟨_, rfl, ?_⟩
    cases s.layout with
    | none => exact .noText
    | some t => exact .someText t
  · exact ⟨_, rfl, .text _⟩
  · exact ⟨_, rfl, .texts _⟩
  · exact ⟨_, rfl, .text _⟩

/-- What an object has under a key of the settings, if anything, is of the kind of the key. -/
def Accepts (o : Data) (key : Text) : Prop :=
  ∀ kind v, kinds.get? key = some kind → o.get? key = some v → kind.Holds v

/-- The complaint about an object is that about the first key in ascending order whose value is not of its kind. -/
def Complains (o : Data) (fault : SettingsFault) : Prop :=
  ∃ key kind v, kinds.get? key = some kind ∧ o.get? key = some v ∧ kind.Refuses v fault ∧
    ∀ earlier, earlier < key → Accepts o earlier

theorem Complains.not_accepts {o : Data} {fault : SettingsFault} (h : Complains o fault) : ¬ ∀ key, Accepts o key := by
  obtain ⟨key, kind, v, known, found, refuses, _⟩ := h
  exact fun all => refuses.not_holds (all key kind v known found)

def Lays (o : Data) (below : Settings) (outcome : Except SettingsFault Settings) : Prop :=
  (∃ s, outcome = .ok s ∧ (∀ key, Accepts o key) ∧ ∀ key kind, kinds.get? key = some kind →
      s.toData.get? key = (o.get? key).or (below.toData.get? key)) ∨
    ∃ fault, outcome = .error fault ∧ Complains o fault

section Entries
variable {key : Text} {v : Value} {rest : Data} {below s : Settings} {outcome : Except SettingsFault Settings}

theorem Accepts.cons {other : Text} (holds : ∀ kind, kinds.get? key = some kind → kind.Holds v)
    (h : Accepts rest other) : Accepts ((key, v) :: rest) other := by
  intro kind found known given
  rw [Dictionary.get?_cons] at given
  by_cases same : other = key
  · rw [if_pos same, Option.some.injEq] at given
    subst same given
    exact holds kind known
  · rw [if_neg same] at given
    exact h kind found known given

/-- An entry that was taken, with larger names behind it. -/
theorem Lays.cons (absent : Dictionary.get? key rest = none)
    (holds : ∀ kind, kinds.get? key = some kind → kind.Holds v)
    (stored : ∀ other kind, kinds.get? other = some kind →
      s.toData.get? other = if other = key then some v else below.toData.get? other)
    (h : Lays rest s outcome) : Lays ((key, v) :: rest) below outcome := by
  rcases h with ⟨s', done, accepts, values⟩ | ⟨fault, failed, other, kind, w, known, found, refuses, earlier⟩
  · refine .inl ⟨s', done, fun other => (accepts other).cons holds, fun other kind known => ?_⟩
    rw [values other kind known, stored other kind known, Dictionary.get?_cons]
    by_cases same : other = key
    · rw [if_pos same, if_pos same, same, absent]
      rfl
    · rw [if_neg same, if_neg same]
  · refine .inr ⟨fault, failed, other, kind, w, known, ?_, refuses, fun before lt => (earlier before lt).cons holds⟩
    have behind : other ≠ key := by
      rintro rfl
      rw [absent] at found
      cases found
    rw [Dictionary.get?_cons, if_neg behind, found]

/-- An entry that was refused, with larger names behind it. -/
theorem complains_cons {kind : Kind} {fault : SettingsFault} (later : ∀ other ∈ Dictionary.keys rest, key < other)
    (known : kinds.get? key = some kind) (refuses : kind.Refuses v fault) : Complains ((key, v) :: rest) fault := by
  refine ⟨key, kind, v, known, ?_, refuses, fun earlier lt other w _ found => ?_⟩
  · rw [Dictionary.get?_cons, if_pos rfl]
  · rcases List.mem_cons.mp (Dictionary.mem_keys_of_mem (Dictionary.mem_of_get? found)) with same | member
    · exact absurd lt (by rw [same]; exact List.lt_irrefl key)
    · exact absurd (List.lt_trans lt (later earlier member)) (List.lt_irrefl earlier)

end Entries

theorem lays_readKeys {entries : Data} (ascending : Dictionary.Ascending entries) :
    ∀ below, Lays entries below (readKeys below entries) := by
  induction entries with
  | nil => exact fun below => .inl ⟨below, rfl, (fun _ _ _ _ found => by cases found), fun _ _ _ => rfl⟩
  | cons entry rest ih =>
      obtain ⟨key, v⟩ := entry
      intro below
      rw [Dictionary.ascending_cons] at ascending
      obtain ⟨later, ascending⟩ := ascending
      have absent : Dictionary.get? key rest = none :=
        Dictionary.get?_eq_none fun member => List.lt_irrefl key (later key member)
      cases known : kinds.get? key with
      | none =>
          have step : readKeys below ((key, v) :: rest) = readKeys below rest := by
            rw [readKeys, readKey_unknown below known v]
            rfl
          rw [step]
          refine (ih ascending below).cons absent (fun kind also => ?_) (fun other kind also => ?_)
          · rw [known] at also
            cases also
          · rw [if_neg]
            rintro rfl
            rw [known] at also
            cases also
      | some kind =>
          rcases readKey_known below known v with ⟨s, read, holds, stored⟩ | ⟨fault, failed, refuses⟩
          · have step : readKeys below ((key, v) :: rest) = readKeys s rest := by
              rw [readKeys, read]
              rfl
            rw [step]
            refine (ih ascending s).cons absent (fun other also => ?_) (fun other _ _ => ?_)
            · rw [known, Option.some.injEq] at also
              exact also ▸ holds
            · rw [stored, Dictionary.get?_insert]
              simp only [eq_comm]
          · exact .inr ⟨fault, by rw [readKeys, failed]; rfl, complains_cons later known refuses⟩

/-! ## Laying an object over the defaults -/

theorem lays_merged {o : Data} (ascending : Dictionary.Ascending o) :
    Lays o default (ofValue (Value.merge (.object default.toData) (.object o))) := by
  have merged : ∀ key, Dictionary.get? key (Value.mergeFields default.toData o) =
      (o.get? key).or (default.toData.get? key) := by
    intro key
    rw [Value.mergeFields_of_flat ascending.nodup, Dictionary.get?_foldl_insert ascending.nodup]
    intro other _ inner found
    have entry := Dictionary.mem_of_get? found
    simp [default, toData] at entry
  have accepts : ∀ key, Accepts o key ↔ Accepts (Value.mergeFields default.toData o) key := by
    refine fun key => forall_congr' fun kind => ⟨fun h v known found => ?_, fun h v known found => ?_⟩
    · rw [merged] at found
      cases given : o.get? key with
      | some w =>
          rw [given] at found
          cases found
          exact h _ known given
      | none =>
          obtain ⟨w, below, holds⟩ := holds_toData default known
          rw [given, below] at found
          cases found
          exact holds
    · exact h v known (by rw [merged, found]; rfl)
  have whole : ofValue (Value.merge (.object default.toData) (.object o)) =
      readKeys default (Value.mergeFields default.toData o) := rfl
  rw [whole]
  rcases lays_readKeys (Value.ascending_mergeFields o default.toData (ascending_toData default)) default with
    ⟨s, done, all, values⟩ | ⟨fault, failed, key, kind, v, known, found, refuses, earlier⟩
  · refine .inl ⟨s, done, fun key => (accepts key).mpr (all key), fun key kind known => ?_⟩
    rw [values key kind known, merged]
    cases o.get? key with
    | some w => rfl
    | none => exact Option.or_self
  · refine .inr ⟨fault, failed, key, kind, v, known, ?_, refuses, fun other lt => (accepts other).mpr (earlier other lt)⟩
    rw [merged] at found
    cases given : o.get? key with
    | some w =>
        rw [given] at found
        exact found
    | none =>
        obtain ⟨w, below, holds⟩ := holds_toData default known
        rw [given, below] at found
        cases found
        exact absurd holds refuses.not_holds

end Settings
end RouteView
