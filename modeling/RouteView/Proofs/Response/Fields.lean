import RouteView.Response

/-!
# Header fields that are sent

A response may have several header fields of one name.  Each of them is set in turn on what is sent, and a field that
is set replaces the earlier ones of its name (`values_set`): of every name the last value is sent and no other
(`values_foldl_set`, `reply_fields`).  So a name keeps its values exactly when it has at most one, and a cookie is
lost as soon as another one is set (`cookie_lost`).
-/
set_option autoImplicit false
namespace RouteView

namespace Headers

def values (headers : Headers) (name : Text) : List Text := (headers.filter (·.1 = name)).map Prod.snd

theorem values_cons (key value : Text) (rest : Headers) (name : Text) :
    values ((key, value) :: rest) name = if key = name then value :: values rest name else values rest name := by
  simp only [values, List.filter_cons, decide_eq_true_eq]
  split <;> rfl

theorem values_filter_ne (headers : Headers) (name other : Text) :
    values (headers.filter (·.1 ≠ name)) other = if other = name then [] else values headers other := by
  rw [values, List.filter_filter]
  split
  · next same =>
      subst same
      simp
  · next apart =>
      rw [values]
      refine congrArg (List.map Prod.snd) (List.filter_congr fun field _ => ?_)
      by_cases asked : field.1 = other
      · simp [asked, apart]
      · simp [asked]

theorem values_set (name value : Text) (headers : Headers) (other : Text) :
    values (set name value headers) other = if other = name then [value] else values headers other := by
  induction headers with
  | nil =>
      rw [set, values_cons]
      by_cases same : other = name
      · rw [if_pos same, if_pos same.symm]
        rfl
      · rw [if_neg same, if_neg (Ne.symm same)]
  | cons field rest ih =>
      obtain ⟨key, old⟩ := field
      rw [set]
      by_cases here : key = name
      · rw [if_pos here, values_cons, values_cons, values_filter_ne]
        subst here
        by_cases same : other = key
        · rw [if_pos same.symm, if_pos same, if_pos same]
        · rw [if_neg (Ne.symm same), if_neg same, if_neg same, if_neg (Ne.symm same)]
      · rw [if_neg here, values_cons, values_cons, ih]
        by_cases same : other = name
        · subst same
          rw [if_neg here, if_pos rfl, if_pos rfl]
        · rw [if_neg same, if_neg same]

/-- Of the fields that are set one after the other the last one of a name counts, and without one of its name the
fields before them. -/
theorem values_foldl_set (name : Text) (fields : Headers) : ∀ start : Headers,
    values (fields.foldl (fun headers (name, value) => set name value headers) start) name =
      match (values fields name).getLast? with
      | some last => [last]
      | none => values start name := by
  induction fields with
  | nil => intro start; rfl
  | cons field rest ih =>
      obtain ⟨key, value⟩ := field
      intro start
      rw [List.foldl_cons, ih, values_set, values_cons]
      by_cases same : name = key
      · rw [if_pos same, if_pos same.symm, List.getLast?_cons]
        cases (values rest name).getLast? with
        | none => rfl
        | some last => rfl
      · rw [if_neg same, if_neg (Ne.symm same)]

end Headers

namespace Response

/-- Status and body are sent as they are, with one type: the last one among the fields, or that of the response.  Of
every other name the last value is sent, which is all of them exactly when the name has no more than one. -/
theorem reply_fields (r : Response) :
    r.reply.status = r.status ∧ r.reply.body = r.body ∧
    r.reply.headers.values contentTypeName = [(r.headers.values contentTypeName).getLast?.getD
      (if r.sentType.all isHeaderChar then r.sentType else plainType)] ∧
    ∀ name, name ≠ contentTypeName →
      r.reply.headers.values name = (r.headers.values name).getLast?.toList ∧
      (r.reply.headers.values name = r.headers.values name ↔ (r.headers.values name).length ≤ 1) := by
  refine ⟨rfl, rfl, ?type, fun name apart => ?other⟩
  case type =>
    rw [reply, Headers.values_foldl_set, Headers.values_cons, if_pos rfl]
    cases (r.headers.values contentTypeName).getLast? with
    | none => rfl
    | some last => rfl
  case other =>
    have last : r.reply.headers.values name = (r.headers.values name).getLast?.toList := by
      rw [reply, Headers.values_foldl_set, Headers.values_cons, if_neg (Ne.symm apart)]
      cases (r.headers.values name).getLast? with
      | none => rfl
      | some value => rfl
    refine ⟨last, ?_⟩
    rw [last]
    cases r.headers.values name with
    | nil => simp
    | cons first rest =>
        cases rest with
        | nil => simp
        | cons second rest => simp [List.getLast?_cons]

/-- Of two cookies the first is not sent. -/
theorem cookie_lost :
    let r : Response := { ok "x" with
      headers := Headers.append (Headers.append [] "Set-Cookie" "a=1") "Set-Cookie" "b=2" }
    r.headers.values "set-cookie" = ["a=1".toList, "b=2".toList] ∧
      r.reply.headers.values "set-cookie" = ["b=2".toList] :=
  ⟨rfl, rfl⟩

end Response
end RouteView
