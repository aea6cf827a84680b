import Mathlib.Data.List.Basic
import WorkflowCheck.Path

/-! Names at the end of paths: a path that ends in a name has that name as its last component. -/

namespace WorkflowCheck.Path

theorem split_of_not_mem {path : Bytes} (h : slash ∉ path) : split path = [path] := by
  induction path with
  | nil => rfl
  | cons b bs ih =>
    have hb : b ≠ slash := fun hb => h (hb ▸ List.mem_cons_self)
    rw [split, if_neg hb, ih fun hbs => h (List.mem_cons_of_mem _ hbs)]

theorem split_append_slash (a b : Bytes) : split (a ++ slash :: b) = split a ++ split b := by
  induction a with
  | nil => simp [split]
  | cons c cs ih =>
    rw [List.cons_append, split, split]
    by_cases hc : c = slash
    · rw [if_pos hc, if_pos hc, ih, List.cons_append]
    · rw [if_neg hc, if_neg hc, ih]
      cases hs : split cs with
      | nil => exact absurd hs (split_ne_nil cs)
      | cons p ps => rfl

theorem components_of_isName {name : Bytes} (h : IsName name) : components name = [name] := by
  rw [components, split_of_not_mem h.no_slash]
  simp [h.ne_nil, h.ne_dot]

theorem components_append_slash (a b : Bytes) :
    components (a ++ slash :: b) = components a ++ components b := by
  rw [components, split_append_slash, List.filter_append]
  rfl

theorem join_of_isName {name : Bytes} (h : IsName name) (base : Bytes) :
    join base name = name ∨ ∃ above, join base name = above ++ slash :: name := by
  have hrelative : isAbsolute name = false := by
    cases name with
    | nil => rfl
    | cons b bs =>
      have hb : b ≠ slash := fun hb => h.no_slash (hb ▸ List.mem_cons_self)
      simpa [isAbsolute] using hb
  unfold join
  rw [if_neg (Bool.not_eq_true _ ▸ hrelative)]
  split
  · next hbase =>
    rcases List.eq_nil_or_concat' base with rfl | ⟨above, last, rfl⟩
    · exact .inl rfl
    · have hlast : last = slash := by simpa [endsWithSlash] using hbase
      exact .inr ⟨above, by rw [hlast, List.append_assoc, List.singleton_append]⟩
  · exact .inr ⟨base, rfl⟩

theorem fileName_join {name : Bytes} (h : IsName name) (base : Bytes) :
    fileName (join base name) = some name := by
  have hlast : (components (join base name)).getLast? = some name := by
    rcases join_of_isName h base with heq | ⟨above, heq⟩
    · rw [heq, components_of_isName h, List.getLast?_singleton]
    · rw [heq, components_append_slash, components_of_isName h, List.getLast?_concat]
  rw [fileName, hlast]
  exact if_neg h.ne_dotDot

end WorkflowCheck.Path
