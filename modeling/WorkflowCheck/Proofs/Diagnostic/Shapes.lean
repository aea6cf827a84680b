import WorkflowCheck.Proofs.Except
import WorkflowCheck.Proofs.Value.Fields

/-! Which values are read as diagnostics, and as which. A value has the shape of a diagnostic that
points into a document, or else that of one with a place in a text, or it is not read at all.
What decides may lie deep in its nested states, whose diagnostics are read by the same rule. -/

namespace WorkflowCheck

open Value

/-- The fields of a diagnostic that points into a document, but for its nested states. -/
structure Diagnostic.SchemaFields (entries : List (String × Value)) (code : String)
    (detail : Option String) (path title : String) : Prop where
  code : Once "code" (.string code) entries
  detail : Optionally (fun v s => v = .string s) "detail" entries detail
  path : Once "path" (.string path) entries
  title : Once "title" (.string title) entries

structure Diagnostic.ParseFields (entries : List (String × Value)) (code detail title : String)
    (location : Option Location) : Prop where
  code : Once "code" (.string code) entries
  detail : Once "detail" (.string detail) entries
  title : Once "title" (.string title) entries
  location : Optionally (fun v l => Location.ofValue? v = some l) "location" entries location

inductive Diagnostic.ParseShaped : Value → Prop
  | mk {entries : List (String × Value)} {code detail title : String} {location : Option Location}
    (fields : ParseFields entries code detail title location) : ParseShaped (.object entries)

/-- Where a nested state has its diagnostics: in its one field, or as the only item of an array. -/
inductive NestedState.ErrorsIn : Value → List Value → Prop
  | field {entries : List (String × Value)} {items : List Value}
    (h : Once "errors" (.array items) entries) : ErrorsIn (.object entries) items
  | item (items : List Value) : ErrorsIn (.array [.array items]) items

mutual

inductive Diagnostic.SchemaShaped : Value → Prop
  | plain {entries : List (String × Value)} {code path title : String} {detail : Option String}
    (fields : Diagnostic.SchemaFields entries code detail path title)
    (states : Unset "states" entries) : Diagnostic.SchemaShaped (.object entries)
  | nested {entries : List (String × Value)} {code path title : String} {detail : Option String}
    {items : List Value} (fields : Diagnostic.SchemaFields entries code detail path title)
    (states : Once "states" (.array items) entries)
    (each : ∀ v ∈ items, NestedState.Shaped v) : Diagnostic.SchemaShaped (.object entries)

inductive Diagnostic.Shaped : Value → Prop
  | schema {v : Value} (h : Diagnostic.SchemaShaped v) : Diagnostic.Shaped v
  | parse {v : Value} (h : Diagnostic.ParseShaped v) : Diagnostic.Shaped v

inductive NestedState.Shaped : Value → Prop
  | mk {v : Value} {items : List Value} (errors : NestedState.ErrorsIn v items)
    (each : ∀ d ∈ items, Diagnostic.Shaped d) :
    NestedState.Shaped v

end

mutual

/-- The diagnostic that a value stands for. -/
inductive Diagnostic.ReadFrom : Value → Diagnostic → Prop
  | plain {entries : List (String × Value)} {code path title : String} {detail : Option String}
    (fields : Diagnostic.SchemaFields entries code detail path title)
    (states : Unset "states" entries) :
    Diagnostic.ReadFrom (.object entries) (.schema code detail path title none)
  | nested {entries : List (String × Value)} {code path title : String} {detail : Option String}
    {items : List Value} {states : List NestedState}
    (fields : Diagnostic.SchemaFields entries code detail path title)
    (found : Once "states" (.array items) entries)
    (each : List.Forall₂ NestedState.ReadFrom items states) :
    Diagnostic.ReadFrom (.object entries) (.schema code detail path title (some states))
  | parse {entries : List (String × Value)} {code detail title : String}
    {location : Option Location} (other : ¬Diagnostic.SchemaShaped (.object entries))
    (fields : Diagnostic.ParseFields entries code detail title location) :
    Diagnostic.ReadFrom (.object entries) (.parse code detail title location)

inductive NestedState.ReadFrom : Value → NestedState → Prop
  | mk {v : Value} {items : List Value} {errors : List Diagnostic}
    (found : NestedState.ErrorsIn v items)
    (each : List.Forall₂ Diagnostic.ReadFrom items errors) : NestedState.ReadFrom v (.mk errors)

end

section

variable {entries : List (String × Value)}

theorem nestedStatesOfItems?_eq_some {items : List Value} {states : List NestedState} :
    nestedStatesOfItems? items = some states ↔
      List.Forall₂ (fun v s => NestedState.ofValue? v = some s) items states :=
  forall₂_of_step (by rw [nestedStatesOfItems?]) (by intros; rw [nestedStatesOfItems?])

theorem diagnosticsOfItems?_eq_some {items : List Value} {errors : List Diagnostic} :
    diagnosticsOfItems? items = some errors ↔
      List.Forall₂ (fun v d => Diagnostic.ofValue? v = some d) items errors :=
  forall₂_of_step (by rw [diagnosticsOfItems?]) (by intros; rw [diagnosticsOfItems?])

theorem statesOfEntries_eq (entries : List (String × Value)) :
    statesOfEntries entries = entries.map fun e => (e.1, statesOfValue? e.2) := by
  induction entries with
  | nil => rw [statesOfEntries, List.map_nil]
  | cons e rest ih => rw [statesOfEntries, ih, List.map_cons]

theorem diagnosticsOfEntries_eq (entries : List (String × Value)) :
    diagnosticsOfEntries entries = entries.map fun e => (e.1, diagnosticsOfValue? e.2) := by
  induction entries with
  | nil => rw [diagnosticsOfEntries, List.map_nil]
  | cons e rest ih => rw [diagnosticsOfEntries, ih, List.map_cons]

theorem diagnosticsOfValue?_eq_some {v : Value} {errors : List Diagnostic} :
    diagnosticsOfValue? v = some errors ↔
      ∃ items, v = .array items ∧ diagnosticsOfItems? items = some errors := by
  cases v <;> simp [diagnosticsOfValue?]

theorem join_statesOfValue?_array (items : List Value) :
    (statesOfValue? (.array items)).join = nestedStatesOfItems? items := by
  rw [statesOfValue?]
  cases nestedStatesOfItems? items <;> rfl

theorem join_statesOfValue?_eq_some {v : Value} {states : List NestedState} :
    (statesOfValue? v).join = some states ↔
      ∃ items, v = .array items ∧ nestedStatesOfItems? items = some states := by
  cases v with
  | array items => simp [join_statesOfValue?_array]
  | _ => simp [statesOfValue?]

theorem states_eq_some {states : Option (List NestedState)} :
    (∃ found, single? "states" (statesOfEntries entries) = some found ∧
      found.getD (some none) = some states) ↔
    Optionally (fun v states => ∃ items, v = .array items ∧
      List.Forall₂ (fun v s => NestedState.ofValue? v = some s) items states)
      "states" entries states := by
  have hread : (∃ found, single? "states" (statesOfEntries entries) = some found ∧
      found.getD (some none) = some states) ↔
      optionalField? (fun v => (statesOfValue? v).join) "states" entries = some states := by
    rw [statesOfEntries_eq, single?_map, optionalField?]
    rcases single? "states" entries with _ | _ | v
    · simp
    · simp
    · cases v with
      | array items => cases h : nestedStatesOfItems? items <;> simp [statesOfValue?, h]
      | _ => simp [statesOfValue?]
  rw [hread, optionalField?_eq_some (by simp [statesOfValue?])]
  simp only [join_statesOfValue?_eq_some, nestedStatesOfItems?_eq_some]

namespace Diagnostic

theorem schemaOf?_eq_some {d : Diagnostic} :
    schemaOf? entries (statesOfEntries entries) = some d ↔
      ∃ code detail path title states, d = .schema code detail path title states ∧
        SchemaFields entries code detail path title ∧
        Optionally (fun v states => ∃ items, v = .array items ∧
          List.Forall₂ (fun v s => NestedState.ofValue? v = some s) items states)
          "states" entries states := by
  rw [schemaOf?]
  simp only [Option.bind_eq_bind, Option.bind_eq_some_iff, requiredText_eq_some,
    optionalText_eq_some, ← states_eq_some]
  constructor
  · rintro ⟨code, hcode, detail, hdetail, path, hpath, title, htitle, found, hfound, states, hstates, hd⟩
    exact ⟨code, detail, path, title, states, (Option.some.inj hd).symm,
      ⟨hcode, hdetail, hpath, htitle⟩, found, hfound, hstates⟩
  · rintro ⟨code, detail, path, title, states, rfl, fields, found, hfound, hstates⟩
    exact ⟨code, fields.code, detail, fields.detail, path, fields.path, title, fields.title,
      found, hfound, states, hstates, rfl⟩

theorem parseOf?_eq_some {d : Diagnostic} :
    parseOf? entries = some d ↔ ∃ code detail title location,
      d = .parse code detail title location ∧ ParseFields entries code detail title location := by
  have hlocation (location : Option Location) :
      optionalField? Location.ofValue? "location" entries = some location ↔
        Optionally (fun v l => Location.ofValue? v = some l) "location" entries location :=
    optionalField?_eq_some rfl
  rw [parseOf?]
  simp only [Option.bind_eq_bind, Option.bind_eq_some_iff, requiredText_eq_some, hlocation]
  constructor
  · rintro ⟨code, hcode, detail, hdetail, title, htitle, location, hlocation, hd⟩
    exact ⟨code, detail, title, location, (Option.some.inj hd).symm,
      hcode, hdetail, htitle, hlocation⟩
  · rintro ⟨code, detail, title, location, rfl, fields⟩
    exact ⟨code, fields.code, detail, fields.detail, title, fields.title, location,
      fields.location, rfl⟩

end Diagnostic

namespace NestedState

theorem ofValue?_array_eq_some {v : Value} {rest : List Value} {errors : List Diagnostic} :
    NestedState.ofValue? (.array (v :: rest)) = some (.mk errors) ↔
      rest = [] ∧ diagnosticsOfValue? v = some errors := by
  rw [NestedState.ofValue?]
  cases rest <;> simp

theorem ofValue?_object_eq_some {errors : List Diagnostic} :
    NestedState.ofValue? (.object entries) = some (.mk errors) ↔
      ∃ v, Once "errors" v entries ∧ diagnosticsOfValue? v = some errors := by
  have hsingle : NestedState.ofValue? (.object entries) =
      (requiredField? diagnosticsOfValue? "errors" entries).map .mk := by
    rw [NestedState.ofValue?, diagnosticsOfEntries_eq, single?_map, requiredField?]
    rcases single? "errors" entries with _ | _ | v <;> rfl
  rw [hsingle, ← requiredField?_eq_some]
  simp

theorem ofValue?_eq_some {v : Value} {errors : List Diagnostic} :
    NestedState.ofValue? v = some (.mk errors) ↔ ∃ items, ErrorsIn v items ∧
      List.Forall₂ (fun v d => Diagnostic.ofValue? v = some d) items errors := by
  simp only [← diagnosticsOfItems?_eq_some]
  constructor
  · intro h
    match v with
    | .array (w :: rest) =>
      obtain ⟨rfl, hw⟩ := ofValue?_array_eq_some.mp h
      obtain ⟨items, rfl, hitems⟩ := diagnosticsOfValue?_eq_some.mp hw
      exact ⟨items, .item items, hitems⟩
    | .object entries =>
      obtain ⟨w, honce, hw⟩ := ofValue?_object_eq_some.mp h
      obtain ⟨items, rfl, hitems⟩ := diagnosticsOfValue?_eq_some.mp hw
      exact ⟨items, .field honce, hitems⟩
    | .array [] | .null | .boolean _ | .number _ | .string _ => simp [NestedState.ofValue?] at h
  · rintro ⟨items, hin, hitems⟩
    cases hin with
    | field honce =>
      exact ofValue?_object_eq_some.mpr
        ⟨_, honce, diagnosticsOfValue?_eq_some.mpr ⟨items, rfl, hitems⟩⟩
    | item =>
      exact ofValue?_array_eq_some.mpr
        ⟨rfl, diagnosticsOfValue?_eq_some.mpr ⟨items, rfl, hitems⟩⟩

end NestedState

theorem sizeOf_lt_of_once {v : Value} {items : List Value} {key : String}
    (h : Once key (.array items) entries) (hv : v ∈ items) :
    sizeOf v < sizeOf (Value.object entries) := by
  have hitems := List.sizeOf_lt_of_mem hv
  have hentries := List.sizeOf_lt_of_mem h.mem
  simp only [Prod.mk.sizeOf_spec, Value.array.sizeOf_spec, Value.object.sizeOf_spec] at *
  omega

theorem NestedState.ErrorsIn.sizeOf_lt {v w : Value} {items : List Value}
    (h : NestedState.ErrorsIn w items) (hv : v ∈ items) : sizeOf v < sizeOf w := by
  cases h with
  | field honce => exact sizeOf_lt_of_once honce hv
  | item =>
    have hitems := List.sizeOf_lt_of_mem hv
    simp only [Value.array.sizeOf_spec, List.cons.sizeOf_spec, List.nil.sizeOf_spec]
    omega

theorem Diagnostic.ofValue?_object_eq_some {d : Diagnostic} :
    Diagnostic.ofValue? (.object entries) = some d ↔
      Diagnostic.schemaOf? entries (statesOfEntries entries) = some d ∨
        (¬∃ d, Diagnostic.schemaOf? entries (statesOfEntries entries) = some d) ∧
          Diagnostic.parseOf? entries = some d := by
  rw [Diagnostic.ofValue?]
  cases Diagnostic.schemaOf? entries (statesOfEntries entries) <;> simp

section

variable {v : Value}

theorem Diagnostic.exists_schemaOf?_of_inside
    (inside : ∀ w, sizeOf w < sizeOf (Value.object entries) →
      ((∃ s, NestedState.ofValue? w = some s) ↔ NestedState.Shaped w)) :
    (∃ d, schemaOf? entries (statesOfEntries entries) = some d) ↔
      SchemaShaped (.object entries) := by
  simp only [schemaOf?_eq_some]
  constructor
  · rintro ⟨_, code, detail, path, title, _ | states, rfl, fields, hstates⟩
    · exact .plain fields hstates
    · obtain ⟨_, honce, items, rfl, heach⟩ := hstates
      refine .nested fields honce fun v hv => ?_
      have hread : ∃ s, NestedState.ofValue? v = some s := exists_forall₂_iff.mp ⟨states, heach⟩ v hv
      exact (inside v (sizeOf_lt_of_once honce hv)).mp hread
  · intro h
    cases h with
    | plain fields hstates => exact ⟨_, _, _, _, _, none, rfl, fields, hstates⟩
    | nested fields honce heach =>
      obtain ⟨states, hstates⟩ := exists_forall₂_iff.mpr fun v hv =>
        (inside v (sizeOf_lt_of_once honce hv)).mpr (heach v hv)
      exact ⟨_, _, _, _, _, some states, rfl, fields, _, honce, _, rfl, hstates⟩

theorem Diagnostic.exists_ofValue?_of_inside
    (inside : ∀ w, sizeOf w < sizeOf v →
      ((∃ s, NestedState.ofValue? w = some s) ↔ NestedState.Shaped w)) :
    (∃ d, Diagnostic.ofValue? v = some d) ↔ Shaped v := by
  constructor
  · rintro ⟨d, h⟩
    match v with
    | .object entries =>
      rcases ofValue?_object_eq_some.mp h with hschema | ⟨-, hparse⟩
      · exact .schema ((exists_schemaOf?_of_inside inside).mp ⟨d, hschema⟩)
      · obtain ⟨code, detail, title, location, rfl, fields⟩ := parseOf?_eq_some.mp hparse
        exact .parse ⟨fields⟩
    | .array _ | .null | .boolean _ | .number _ | .string _ => simp [Diagnostic.ofValue?] at h
  · intro h
    obtain ⟨entries, rfl⟩ : ∃ entries, v = .object entries := by
      rcases h with hschema | hparse
      · cases hschema <;> exact ⟨_, rfl⟩
      · cases hparse
        exact ⟨_, rfl⟩
    by_cases hschema : ∃ d, schemaOf? entries (statesOfEntries entries) = some d
    · obtain ⟨d, hd⟩ := hschema
      exact ⟨d, ofValue?_object_eq_some.mpr (.inl hd)⟩
    · cases h with
      | schema h => exact absurd ((exists_schemaOf?_of_inside inside).mpr h) hschema
      | parse h =>
        obtain ⟨fields⟩ := h
        exact ⟨_, ofValue?_object_eq_some.mpr
          (.inr ⟨hschema, parseOf?_eq_some.mpr ⟨_, _, _, _, rfl, fields⟩⟩)⟩

theorem NestedState.exists_ofValue?_iff (v : Value) :
    (∃ s, NestedState.ofValue? v = some s) ↔ Shaped v := by
  -- by size: from one nested state to the next it is three steps down, through lists of entries
  induction v using (measure fun v : Value => sizeOf v).wf.induction with | _ v ih =>
  have hdiagnostic {items : List Value} (hin : ErrorsIn v items) (d : Value) (hd : d ∈ items) :
      (∃ e, Diagnostic.ofValue? d = some e) ↔ Diagnostic.Shaped d :=
    Diagnostic.exists_ofValue?_of_inside fun w hw => ih w (Nat.lt_trans hw (hin.sizeOf_lt hd))
  constructor
  · rintro ⟨⟨errors⟩, h⟩
    obtain ⟨items, hin, heach⟩ := ofValue?_eq_some.mp h
    refine ⟨hin, fun d hd => (hdiagnostic hin d hd).mp ?_⟩
    exact exists_forall₂_iff.mp ⟨errors, heach⟩ d hd
  · rintro ⟨hin, heach⟩
    obtain ⟨errors, herrors⟩ := exists_forall₂_iff.mpr fun d hd =>
      (hdiagnostic hin d hd).mpr (heach d hd)
    exact ⟨.mk errors, ofValue?_eq_some.mpr ⟨_, hin, herrors⟩⟩

theorem Diagnostic.exists_schemaOf?_iff :
    (∃ d, schemaOf? entries (statesOfEntries entries) = some d) ↔ SchemaShaped (.object entries) :=
  exists_schemaOf?_of_inside fun w _ => NestedState.exists_ofValue?_iff w

theorem Diagnostic.ofValue?_eq_some_of_inside {d : Diagnostic}
    (inside : ∀ w, sizeOf w < sizeOf v →
      ∀ s, NestedState.ofValue? w = some s ↔ NestedState.ReadFrom w s) :
    Diagnostic.ofValue? v = some d ↔ ReadFrom v d := by
  have heach_iff {entries : List (String × Value)} (hv : v = .object entries) {items : List Value}
      (honce : Once "states" (.array items) entries) {states : List NestedState} :
      List.Forall₂ (fun v s => NestedState.ofValue? v = some s) items states ↔
        List.Forall₂ NestedState.ReadFrom items states :=
    forall₂_iff_of_mem fun w hw => inside w (hv ▸ sizeOf_lt_of_once honce hw)
  constructor
  · intro h
    match v with
    | .object entries =>
      rcases ofValue?_object_eq_some.mp h with hschema | ⟨hother, hparse⟩
      · obtain ⟨code, detail, path, title, _ | states, rfl, fields, hstates⟩ :=
          schemaOf?_eq_some.mp hschema
        · exact .plain fields hstates
        · obtain ⟨_, honce, items, rfl, heach⟩ := hstates
          exact .nested fields honce ((heach_iff rfl honce).mp heach)
      · obtain ⟨code, detail, title, location, rfl, fields⟩ := parseOf?_eq_some.mp hparse
        exact .parse (mt exists_schemaOf?_iff.mpr hother) fields
    | .array _ | .null | .boolean _ | .number _ | .string _ => simp [Diagnostic.ofValue?] at h
  · intro h
    cases h with
    | plain fields hstates =>
      exact ofValue?_object_eq_some.mpr
        (.inl (schemaOf?_eq_some.mpr ⟨_, _, _, _, none, rfl, fields, hstates⟩))
    | nested fields honce heach =>
      exact ofValue?_object_eq_some.mpr (.inl (schemaOf?_eq_some.mpr
        ⟨_, _, _, _, some _, rfl, fields, _, honce, _, rfl, (heach_iff rfl honce).mpr heach⟩))
    | parse hother fields =>
      exact ofValue?_object_eq_some.mpr (.inr ⟨mt exists_schemaOf?_iff.mp hother,
        parseOf?_eq_some.mpr ⟨_, _, _, _, rfl, fields⟩⟩)

theorem NestedState.ofValue?_eq_some_iff (v : Value) (s : NestedState) :
    NestedState.ofValue? v = some s ↔ ReadFrom v s := by
  induction v using (measure fun v : Value => sizeOf v).wf.induction generalizing s with | _ v ih =>
  obtain ⟨errors⟩ := s
  have heach_iff {items : List Value} (hin : ErrorsIn v items) :
      List.Forall₂ (fun v d => Diagnostic.ofValue? v = some d) items errors ↔
        List.Forall₂ Diagnostic.ReadFrom items errors :=
    forall₂_iff_of_mem fun d hd e => Diagnostic.ofValue?_eq_some_of_inside fun w hw =>
      ih w (Nat.lt_trans hw (hin.sizeOf_lt hd))
  rw [ofValue?_eq_some]
  constructor
  · rintro ⟨items, hin, heach⟩
    exact .mk hin ((heach_iff hin).mp heach)
  · rintro ⟨hin, heach⟩
    exact ⟨_, hin, (heach_iff hin).mpr heach⟩

theorem Diagnostic.ofValue?_eq_some_iff {d : Diagnostic} :
    Diagnostic.ofValue? v = some d ↔ ReadFrom v d :=
  ofValue?_eq_some_of_inside fun w _ => NestedState.ofValue?_eq_some_iff w

namespace Diagnostic

theorem exists_schema_iff :
    (∃ code detail path title states,
      Diagnostic.ofValue? v = some (.schema code detail path title states)) ↔ SchemaShaped v := by
  constructor
  · rintro ⟨code, detail, path, title, states, h⟩
    cases ofValue?_eq_some_iff.mp h with
    | plain fields hstates => exact .plain fields hstates
    | nested fields honce heach =>
      refine .nested fields honce fun w hw => ?_
      obtain ⟨s, hs⟩ := exists_forall₂_iff.mp ⟨_, heach⟩ w hw
      exact (NestedState.exists_ofValue?_iff w).mp ⟨s, (NestedState.ofValue?_eq_some_iff w s).mpr hs⟩
  · intro h
    obtain ⟨entries, rfl⟩ : ∃ entries, v = .object entries := by cases h <;> exact ⟨_, rfl⟩
    obtain ⟨d, hd⟩ := exists_schemaOf?_iff.mpr h
    obtain ⟨code, detail, path, title, states, rfl, -, -⟩ := schemaOf?_eq_some.mp hd
    exact ⟨code, detail, path, title, states, ofValue?_object_eq_some.mpr (.inl hd)⟩

theorem exists_parse_iff :
    (∃ code detail title location,
      Diagnostic.ofValue? v = some (.parse code detail title location)) ↔
      ¬SchemaShaped v ∧ ParseShaped v := by
  constructor
  · rintro ⟨code, detail, title, location, h⟩
    cases ofValue?_eq_some_iff.mp h with
    | parse hother fields => exact ⟨hother, ⟨fields⟩⟩
  · rintro ⟨hother, ⟨fields⟩⟩
    exact ⟨_, _, _, _, ofValue?_eq_some_iff.mpr (.parse hother fields)⟩

theorem ofValue?_eq_none_iff :
    Diagnostic.ofValue? v = none ↔ ¬SchemaShaped v ∧ ¬ParseShaped v := by
  have hshaped : Shaped v ↔ SchemaShaped v ∨ ParseShaped v := by
    constructor
    · rintro (hschema | hparse)
      · exact .inl hschema
      · exact .inr hparse
    · exact fun h => h.elim .schema .parse
  have hread : (∃ d, Diagnostic.ofValue? v = some d) ↔ Shaped v :=
    exists_ofValue?_of_inside fun w _ => NestedState.exists_ofValue?_iff w
  rw [← not_or, ← hshaped, ← hread, ← Option.isSome_iff_exists, Option.not_isSome_iff_eq_none]

end Diagnostic

end

end

end WorkflowCheck
