import WorkflowCheck.Proofs.Diagnostic.Encoding
import WorkflowCheck.Proofs.Json.Rewording

/-! The lines of a snapshot. What the diagnostics say cannot disturb them: a change in one of
their strings, however deep it is nested, shows as one changed line. -/

namespace WorkflowCheck

/-- The second diagnostic is the first one, but one string in it or in a diagnostic nested in it is
replaced by a different one. -/
inductive Diagnostic.Reworded : Diagnostic → Diagnostic → Prop
  | code {a b detail path title states} (h : a ≠ b) :
      Reworded (.schema a detail path title states) (.schema b detail path title states)
  | detail {code a b path title states} (h : a ≠ b) :
      Reworded (.schema code (some a) path title states) (.schema code (some b) path title states)
  | path {code detail a b title states} (h : a ≠ b) :
      Reworded (.schema code detail a title states) (.schema code detail b title states)
  | title {code detail path a b states} (h : a ≠ b) :
      Reworded (.schema code detail path a states) (.schema code detail path b states)
  | nested {code detail path title d e} (before : List NestedState) (front : List Diagnostic)
      (h : Reworded d e) (back : List Diagnostic) (after : List NestedState) :
      Reworded
        (.schema code detail path title (some (before ++ .mk (front ++ d :: back) :: after)))
        (.schema code detail path title (some (before ++ .mk (front ++ e :: back) :: after)))
  | parseCode {a b detail title location} (h : a ≠ b) :
      Reworded (.parse a detail title location) (.parse b detail title location)
  | parseDetail {code a b title location} (h : a ≠ b) :
      Reworded (.parse code a title location) (.parse code b title location)
  | parseTitle {code detail a b location} (h : a ≠ b) :
      Reworded (.parse code detail a location) (.parse code detail b location)

/-- The states differ in one string of one diagnostic. -/
inductive State.Reworded : State → State → Prop
  | error (kind : Kind) (before : List Diagnostic) {d e : Diagnostic} (h : d.Reworded e)
      (after : List Diagnostic) :
      Reworded ⟨kind, before ++ d :: after⟩ ⟨kind, before ++ e :: after⟩

theorem Diagnostic.Reworded.toValue {d e : Diagnostic} (h : d.Reworded e) :
    d.toValue.Reworded e.toValue := by
  induction h with
  | @code a b detail path title states h =>
    cases states <;> exact .entry [] "code" _ (.string h)
  | @detail code a b path title states h =>
    cases states <;> exact .entry [("code", .string code)] "detail" _ (.string h)
  | @path code detail a b title states h =>
    cases states <;>
      exact .entry (("code", .string code) :: optionalEntry "detail" (detail.map .string)) "path" _
        (.string h)
  | @title code detail path a b states h =>
    -- only with the optional entry known is it plain which entries stand in front
    cases detail with
    | none =>
      cases states <;>
        exact .entry [("code", .string code), ("path", .string path)] "title" _ (.string h)
    | some text =>
      cases states <;>
        exact .entry [("code", .string code), ("detail", .string text), ("path", .string path)]
          "title" _ (.string h)
  | @nested code detail path title d e before front _ back after ih =>
    have herrors := Value.Reworded.entry [] "errors" []
      (ih.item (front.map Diagnostic.toValue) (back.map Diagnostic.toValue))
    have hstates := herrors.item (before.map NestedState.toValue) (after.map NestedState.toValue)
    simp only [Diagnostic.toValue, nestedStateValues_eq, List.map_append, List.map_cons,
      NestedState.toValue, diagnosticValues_eq]
    cases detail with
    | none =>
      exact .entry [("code", .string code), ("path", .string path), ("title", .string title)]
        "states" [] hstates
    | some text =>
      exact .entry [("code", .string code), ("detail", .string text), ("path", .string path),
        ("title", .string title)] "states" [] hstates
  | @parseCode a b detail title location h => exact .entry [] "code" _ (.string h)
  | @parseDetail code a b title location h =>
    exact .entry [("code", .string code)] "detail" _ (.string h)
  | @parseTitle code detail a b location h =>
    exact .entry [("code", .string code), ("detail", .string detail)] "title" _ (.string h)

theorem State.Reworded.toValue {s t : State} (h : s.Reworded t) : s.toValue.Reworded t.toValue := by
  cases h with
  | error kind before h after =>
    simp only [State.toValue, diagnosticValues_eq, List.map_append, List.map_cons]
    exact .entry [("actionType", .string kind.name)] "errors" [] (.item _ _ h.toValue)

theorem existsUnique_getElem?_ne {α : Type} {x y : α} (h : x ≠ y) (above below : List α) :
    ∃! i : Nat, (above ++ x :: below)[i]? ≠ (above ++ y :: below)[i]? := by
  have hset : above ++ y :: below = (above ++ x :: below).set above.length y := by simp
  refine ⟨above.length, by simpa using h, fun i hi => ?_⟩
  by_contra hne
  rw [hset, List.getElem?_set_ne (Ne.symm hne)] at hi
  exact hi rfl

namespace State

theorem rows_snapshot (s : State) : Json.Rows s.toValue.rows (Json.pretty 0 s.toValue) := by
  rw [Json.pretty_eq]
  exact Json.rows_write 0 s.toValue s.exact_toValue

theorem lines_snapshot (s : State) :
    Text.lines s.snapshot =
      (Text.splitLines (Json.pretty 0 s.toValue ++ ['\n'])).map String.ofList := by
  rw [Text.lines, snapshot, String.toList_ofList]

theorem Reworded.lines {s t : State} (h : s.Reworded t) :
    ∃ above line line' below, line ≠ line' ∧
      Text.lines s.snapshot = above ++ line :: below ∧
      Text.lines t.snapshot = above ++ line' :: below := by
  obtain ⟨above, line, line', below, hne, hs, ht⟩ :=
    (Json.quotedApart_write .lines h.toValue 0).splitLines
  refine ⟨above.map String.ofList, String.ofList line, String.ofList line',
    below.map String.ofList, mt String.ofList_inj.mp hne, ?_, ?_⟩
  · rw [lines_snapshot, Json.pretty_eq, hs, List.map_append, List.map_cons]
  · rw [lines_snapshot, Json.pretty_eq, ht, List.map_append, List.map_cons]

end State

/-- A snapshot ends in one newline, has no blank line, and has no control characters but the
newlines of its layout. Another string in one diagnostic, at any depth, changes one line and leaves
all others where they are. -/
theorem snapshot_lines (s : State) :
    ((∃ body, s.snapshot = body ++ "\n" ∧ ¬ Text.Ended body) ∧
      (∀ line ∈ Text.lines s.snapshot, ∃ c ∈ line.toList, Text.isSpace c = false) ∧
      (∀ c ∈ s.snapshot.toList, c.toNat < 0x20 → c = '\n') ∧
      (Text.lines s.snapshot).length = s.toValue.rows) ∧
    ∀ t, s.Reworded t →
      (Text.lines s.snapshot).length = (Text.lines t.snapshot).length ∧
        ∃! i : Nat, (Text.lines s.snapshot)[i]? ≠ (Text.lines t.snapshot)[i]? := by
  have hrows := s.rows_snapshot
  obtain ⟨hlength, hvisible⟩ := hrows.splitLines
  refine ⟨⟨⟨Json.prettyText s.toValue, s.snapshot_eq, ?_⟩, ?_, ?_, ?_⟩, fun t ht => ?_⟩
  · rw [Text.Ended, Json.prettyText, String.toList_ofList]
    exact hrows.getLast?_ne
  · intro line hline
    rw [s.lines_snapshot] at hline
    obtain ⟨l, hl, rfl⟩ := List.mem_map.mp hline
    rw [String.toList_ofList]
    exact hvisible l hl
  · intro c hc hlt
    rw [State.snapshot, String.toList_ofList] at hc
    rcases List.mem_append.mp hc with hc | hc
    · exact hrows.eq_newline_of_lt c hc hlt
    · exact List.mem_singleton.mp hc
  · rw [s.lines_snapshot, List.length_map, hlength]
  · obtain ⟨above, line, line', below, hne, hs, ht⟩ := ht.lines
    rw [hs, ht]
    exact ⟨by simp, existsUnique_getElem?_ne hne above below⟩

/-- A state with the given detail in a diagnostic below another one. -/
def State.detailed (detail : String) : State :=
  ⟨.workflow, [.schema "any_of" none "/on" "t" (some
    [.mk [], .mk [.schema "wrong_type" none "" "" none, .parse "invalid_yaml" detail "t" none]])]⟩

theorem line_breaks_in_one_line :
    (State.detailed "").Reworded (State.detailed "\n\n\"\\\u0001,") ∧
      (Text.lines (State.detailed "").snapshot).length =
        (Text.lines (State.detailed "\n\n\"\\\u0001,").snapshot).length ∧
      ∃! i : Nat, (Text.lines (State.detailed "").snapshot)[i]? ≠
        (Text.lines (State.detailed "\n\n\"\\\u0001,").snapshot)[i]? := by
  have h : (State.detailed "").Reworded (State.detailed "\n\n\"\\\u0001,") :=
    .error .workflow [] (.nested [.mk []] [.schema "wrong_type" none "" "" none]
      (.parseDetail (by decide)) [] []) []
  exact ⟨h, (snapshot_lines (State.detailed "")).2 _ h⟩

end WorkflowCheck
