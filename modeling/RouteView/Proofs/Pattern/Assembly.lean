import RouteView.Pattern.Assembly
import RouteView.Proofs.Pattern.Captures

/-!
# Assembled paths and derivations

Assembling a path from texts makes choices of its own: a group is taken when it can be filled.  Where the
texts can be captured these choices derive the assembled path (`derives_of_fill`).  Conversely a derived
path is assembled again from the texts it captures when every skipped group misses one
(`fill_of_derives`).
-/
set_option autoImplicit false
namespace RouteView.Segments

section Fill
variable {params : Parameters} {rest : Segments} {path : Text}

theorem fill_literal {text : Text} :
    fill params (literal text rest) = some path ↔ ∃ more, fill params rest = some more ∧ path = text ++ more := by
  simp [fill, eq_comm (a := path)]

theorem fill_parameter {name : Text} :
    fill params (parameter name rest) = some path ↔
      ∃ text more, params name = some text ∧ fill params rest = some more ∧ path = text ++ more := by
  simp [fill, Option.bind_eq_some_iff, eq_comm (a := path)]

theorem fill_optional {children : Segments} :
    fill params (optional children rest) = some path ↔
      ∃ more, fill params rest = some more ∧ path = (fill params children).getD [] ++ more := by
  simp [fill, eq_comm (a := path)]

theorem assemble_eq_ok {route : Text} {segments : Segments} : ∀ {path : Text},
    assemble route params segments = .ok path ↔ fill params segments = some path := by
  induction segments with
  | nil => intro path; simp [assemble, fill]
  | literal text rest ih =>
      intro path
      simp only [assemble, map_eq_ok, fill_literal, ih, eq_comm (b := path)]
  | parameter name rest ih =>
      intro path
      rw [assemble, fill_parameter]
      cases given : params name with
      | none => simp
      | some text => simp [map_eq_ok, ih, eq_comm (b := path)]
  | optional children rest _ ih =>
      intro path
      simp only [assemble, map_eq_ok, fill_optional, ih, eq_comm (b := path)]

end Fill

/-! ## From texts to a derivation -/

def madeChoices (params : Parameters) : Segments → List Choice
  | nil => []
  | literal _ rest => madeChoices params rest
  | parameter name rest => .capture name ((params name).getD []) :: madeChoices params rest
  | optional children rest =>
      if (fill params children).isSome then .take :: madeChoices params children ++ madeChoices params rest
      else .skip :: madeChoices params rest

def Capturable (params : Parameters) (segments : Segments) : Prop :=
  ∀ name ∈ segments.groupNames, ∀ text, params name = some text → Fills text

theorem derives_of_fill {params : Parameters} (segments : Segments) : ∀ {path : Text},
    Capturable params segments → fill params segments = some path →
    Derives segments path (madeChoices params segments) := by
  induction segments with
  | nil =>
      intro path _ h
      simp only [fill, Option.some.injEq] at h
      subst h
      exact .nil
  | literal text rest ih =>
      intro path capturable h
      obtain ⟨more, hr, rfl⟩ := fill_literal.mp h
      exact .literal (ih capturable hr)
  | parameter name rest ih =>
      intro path capturable h
      obtain ⟨text, more, given, hr, rfl⟩ := fill_parameter.mp h
      have fills := capturable name (List.mem_cons_self ..) text given
      have later : Capturable params rest := fun other hm => capturable other (List.mem_cons_of_mem _ hm)
      rw [madeChoices, given, Option.getD_some]
      exact .parameter fills (ih later hr)
  | optional children rest ihc ihr =>
      intro path capturable h
      obtain ⟨more, hr, rfl⟩ := fill_optional.mp h
      have inside : Capturable params children := fun name hm => capturable name (List.mem_append_left _ hm)
      have later : Capturable params rest := fun name hm => capturable name (List.mem_append_right _ hm)
      rw [madeChoices]
      cases filled : fill params children with
      | none => simpa using Derives.skip (ihr later hr)
      | some text => simpa using Derives.take (ihc inside filled) (ihr later hr)

theorem mem_of_fill {params : Parameters} {c : Char} (segments : Segments) : ∀ {path : Text},
    fill params segments = some path → c ∈ path →
    c ∈ segments.print ∨ ∃ name ∈ segments.groupNames, ∃ text, params name = some text ∧ c ∈ text := by
  induction segments with
  | nil =>
      intro path h member
      simp only [fill, Option.some.injEq] at h
      subst h
      simp at member
  | literal text rest ih =>
      intro path h member
      obtain ⟨more, hr, rfl⟩ := fill_literal.mp h
      rw [print, groupNames, List.mem_append]
      rcases List.mem_append.mp member with hc | hc
      · exact Or.inl (Or.inl hc)
      · exact (ih hr hc).imp_left Or.inr
  | parameter name rest ih =>
      intro path h member
      obtain ⟨text, more, given, hr, rfl⟩ := fill_parameter.mp h
      rw [print, groupNames]
      rcases List.mem_append.mp member with hc | hc
      · exact Or.inr ⟨name, List.mem_cons_self .., text, given, hc⟩
      · rcases ih hr hc with written | ⟨other, hm, value, hv, hcv⟩
        · exact Or.inl (List.mem_append_right _ written)
        · exact Or.inr ⟨other, List.mem_cons_of_mem _ hm, value, hv, hcv⟩
  | optional children rest ihc ihr =>
      intro path h member
      obtain ⟨more, hr, rfl⟩ := fill_optional.mp h
      have from_parts : (c ∈ children.print ∨ c ∈ rest.print) ∨
          ∃ name ∈ children.groupNames ++ rest.groupNames, ∃ text, params name = some text ∧ c ∈ text := by
        rcases List.mem_append.mp member with hc | hc
        · cases filled : fill params children with
          | none => simp [filled] at hc
          | some text =>
              rw [filled, Option.getD_some] at hc
              rcases ihc filled hc with written | ⟨name, hm, value⟩
              · exact Or.inl (Or.inl written)
              · exact Or.inr ⟨name, List.mem_append_left _ hm, value⟩
        · rcases ihr hr hc with written | ⟨name, hm, value⟩
          · exact Or.inl (Or.inr written)
          · exact Or.inr ⟨name, List.mem_append_right _ hm, value⟩
      refine from_parts.imp_left fun written => ?_
      simp only [print, List.cons_append, List.mem_cons, List.mem_append]
      rcases written with hc | hc
      · exact Or.inr (Or.inl hc)
      · exact Or.inr (Or.inr (Or.inr hc))

/-! ## From a derivation to its texts -/

def ownNames : Segments → List Text
  | nil => []
  | literal _ rest | optional _ rest => ownNames rest
  | parameter name rest => name :: ownNames rest

theorem ownNames_sublist (segments : Segments) : segments.ownNames.Sublist segments.groupNames := by
  induction segments with
  | nil => exact List.Sublist.slnil
  | literal text rest ih => exact ih
  | parameter name rest ih => exact ih.cons_cons _
  | optional children rest _ ih => exact ih.trans (List.sublist_append_right ..)

theorem fill_eq_none {params : Parameters} {name : Text} (segments : Segments)
    (missing : params name = none) (own : name ∈ segments.ownNames) : fill params segments = none := by
  induction segments with
  | nil => simp [ownNames] at own
  | literal text rest ih => simp [fill, ih own]
  | parameter other rest ih =>
      rcases List.mem_cons.mp own with rfl | own
      · simp [fill, missing]
      · simp [fill, ih own]
  | optional children rest _ ih => simp [fill, ih own]

theorem isSome_fill {params : Parameters} (segments : Segments) :
    (fill params segments).isSome ↔ ∀ name ∈ segments.ownNames, (params name).isSome := by
  constructor
  · intro filled name own
    cases missing : params name with
    | none => simp [fill_eq_none segments missing own] at filled
    | some text => rfl
  · intro given
    induction segments with
    | nil => rfl
    | literal text rest ih =>
        obtain ⟨more, hr⟩ := Option.isSome_iff_exists.mp (ih given)
        simp [fill, hr]
    | parameter name rest ih =>
        rw [ownNames, List.forall_mem_cons] at given
        obtain ⟨text, ht⟩ := Option.isSome_iff_exists.mp given.1
        obtain ⟨more, hr⟩ := Option.isSome_iff_exists.mp (ih given.2)
        simp [fill, ht, hr]
    | optional children rest _ ih =>
        obtain ⟨more, hr⟩ := Option.isSome_iff_exists.mp (ih given)
        simp [fill, hr]

def EveryGroup (P : Segments → Prop) : Segments → Prop
  | nil => True
  | literal _ rest | parameter _ rest => EveryGroup P rest
  | optional children rest => P children ∧ EveryGroup P children ∧ EveryGroup P rest

instance decidableEveryGroup (P : Segments → Prop) [DecidablePred P] :
    ∀ segments, Decidable (EveryGroup P segments)
  | nil => isTrue trivial
  | literal _ rest | parameter _ rest => decidableEveryGroup P rest
  | optional children rest =>
      have := decidableEveryGroup P children
      have := decidableEveryGroup P rest
      inferInstanceAs (Decidable (P children ∧ EveryGroup P children ∧ EveryGroup P rest))

/-- The texts are those that the choices capture, as far as this shows which groups were taken: every group
has a parameter of its own among the names that occur `once`, and such a name has no text when it is not
captured. -/
structure Restores (once : Text → Prop) (params : Parameters) (segments : Segments) (choices : List Choice) :
    Prop where
  groups : EveryGroup (fun children => ∃ name ∈ children.ownNames, once name) segments
  single : ∀ name, once name → segments.groupNames.count name ≤ 1
  given : ∀ name text, Choice.capture name text ∈ choices → params name = some text
  absent : ∀ name ∈ segments.groupNames, once name → name ∉ capturedNames choices → params name = none

theorem not_mem_right_of_count {name : Text} {first second : List Text}
    (single : (first ++ second).count name ≤ 1) (member : name ∈ first) : name ∉ second := by
  intro other
  have hf := List.count_pos_iff.mpr member
  have hs := List.count_pos_iff.mpr other
  rw [List.count_append] at single
  omega

section Restores
variable {once : Text → Prop} {params : Parameters} {children rest : Segments}

/-- What holds of the whole holds of a part whose own choices capture all that is captured of its names. -/
theorem Restores.part {whole part : Segments} {choices own : List Choice}
    (h : Restores once params whole choices)
    (groups : EveryGroup (fun children => ∃ name ∈ children.ownNames, once name) part)
    (names : part.groupNames.Sublist whole.groupNames) (among : own ⊆ choices)
    (elsewhere : ∀ name ∈ part.groupNames, once name → name ∈ capturedNames choices →
      name ∈ capturedNames own) :
    Restores once params part own := by
  refine ⟨groups, fun name ho => Nat.le_trans (names.count_le name) (h.single name ho),
    fun name text hm => h.given name text (among hm), fun name hm ho missing => ?_⟩
  exact h.absent name (names.subset hm) ho fun captured => missing (elsewhere name hm ho captured)

theorem Restores.inside {second : Text} {inner outer : List Choice}
    (h : Restores once params (optional children rest) (.take :: inner ++ outer))
    (hr : Derives rest second outer) : Restores once params children inner := by
  refine h.part h.groups.2.1 (List.sublist_append_left ..) (by simp) fun name hm ho captured => ?_
  rw [List.cons_append, capturedNames, capturedNames_append] at captured
  refine (List.mem_append.mp captured).resolve_right fun hc => ?_
  exact not_mem_right_of_count (h.single name ho) hm ((capturedNames_sublist hr).subset hc)

theorem Restores.later {first : Text} {inner outer : List Choice}
    (h : Restores once params (optional children rest) (.take :: inner ++ outer))
    (hc : Derives children first inner) : Restores once params rest outer := by
  refine h.part h.groups.2.2 (List.sublist_append_right ..) (by simp) fun name hm ho captured => ?_
  rw [List.cons_append, capturedNames, capturedNames_append] at captured
  refine (List.mem_append.mp captured).resolve_left fun hi => ?_
  exact not_mem_right_of_count (h.single name ho) ((capturedNames_sublist hc).subset hi) hm

theorem Restores.afterParameter {name text : Text} {choices : List Choice}
    (h : Restores once params (parameter name rest) (.capture name text :: choices)) :
    Restores once params rest choices := by
  refine h.part h.groups (List.sublist_cons_self ..) (by simp) fun other hm ho captured => ?_
  rcases List.mem_cons.mp captured with rfl | captured
  · exact absurd hm (not_mem_right_of_count (h.single other ho) (List.mem_singleton_self other))
  · exact captured

theorem Restores.afterSkip {choices : List Choice}
    (h : Restores once params (optional children rest) (.skip :: choices)) :
    Restores once params rest choices :=
  h.part h.groups.2.2 (List.sublist_append_right ..) (by simp) fun _ _ _ captured => captured

/-- A skipped group cannot be filled. -/
theorem Restores.dropped {path : Text} {choices : List Choice}
    (h : Restores once params (optional children rest) (.skip :: choices)) (hr : Derives rest path choices) :
    fill params children = none := by
  obtain ⟨name, own, ho⟩ := h.groups.1
  -- the only group of this name is inside, so nothing after the skipped group captures it
  have member := (ownNames_sublist children).subset own
  refine fill_eq_none children (h.absent name (List.mem_append_left _ member) ho fun captured => ?_) own
  exact not_mem_right_of_count (h.single name ho) member ((capturedNames_sublist hr).subset captured)

end Restores

theorem fill_of_derives {once : Text → Prop} {params : Parameters} {segments : Segments} {path : Text}
    {choices : List Choice} (h : Derives segments path choices) :
    Restores once params segments choices → fill params segments = some path := by
  induction h with
  | nil => intro _; rfl
  | literal _ ih =>
      intro restores
      exact fill_literal.mpr ⟨_, ih ⟨restores.groups, restores.single, restores.given, restores.absent⟩, rfl⟩
  | @parameter name text path rest choices fills hd ih =>
      intro restores
      have given := restores.given name text (List.mem_cons_self ..)
      exact fill_parameter.mpr ⟨text, path, given, ih restores.afterParameter, rfl⟩
  | take hc hr ihc ihr =>
      intro restores
      refine fill_optional.mpr ⟨_, ihr (restores.later hc), ?_⟩
      rw [ihc (restores.inside hr), Option.getD_some]
  | skip hr ih =>
      intro restores
      refine fill_optional.mpr ⟨_, ih restores.afterSkip, ?_⟩
      rw [restores.dropped hr]
      rfl

end RouteView.Segments
