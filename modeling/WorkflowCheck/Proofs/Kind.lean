import WorkflowCheck.Proofs.Discovery.Exactness
import WorkflowCheck.Proofs.Path.Ending

/-! The kind of a document is decided by the last component of its path that is a name. Neither the
way to that component nor what is written behind it has a say. -/

namespace WorkflowCheck

open WorkflowCheck.Path (IsName fileName join slash dot trimEnd)

namespace Kind

variable {p q : Bytes}

theorem isName_of_mem_actionNames {text : String} (h : text ∈ actionNames) :
    IsName (Text.encode text) := by
  have hall : ∀ text ∈ actionNames, IsName (Text.encode text) := by decide_cbv
  exact hall text h

theorem ofPath_congr (h : fileName p = fileName q) : ofPath p = ofPath q := by
  rw [ofPath, ofPath, h]

theorem ofPath_eq_action_iff :
    ofPath p = .action ↔ ∃ text ∈ actionNames, fileName p = some (Text.encode text) := by
  unfold ofPath
  cases fileName p with
  | none => simp
  | some file => simp [eq_comm]

theorem ofPath_eq_action_iff_trimEnd : ofPath p = .action ↔ ∃ text ∈ actionNames,
    trimEnd p = Text.encode text ∨ slash :: Text.encode text <:+ trimEnd p := by
  rw [ofPath_eq_action_iff]
  exact exists_congr fun text => and_congr_right fun h =>
    Path.fileName_eq_some_iff (isName_of_mem_actionNames h)

theorem ofPath_join {name : Bytes} (h : IsName name) (directory : Bytes) :
    ofPath (join directory name) = ofPath name := by
  refine ofPath_congr ?_
  rw [Path.fileName_join h, Path.fileName_eq_some.mpr]
  rw [Path.components_of_isName h]
  exact ⟨rfl, h.ne_dotDot⟩

/-- The second path has one slash or one `.` part more, where a slash is or at the end. -/
inductive Respelled : Bytes → Bytes → Prop where
  | slash (a b : Bytes) : Respelled (a ++ slash :: b) (a ++ slash :: slash :: b)
  | dot (a b : Bytes) : Respelled (a ++ slash :: b) (a ++ slash :: (dot ++ slash :: b))
  | slashBehind (a : Bytes) : Respelled a (a ++ [slash])
  | dotBehind (a : Bytes) : Respelled a (a ++ slash :: dot)

theorem Respelled.ofPath_eq (h : Respelled p q) : ofPath q = ofPath p := by
  refine ofPath_congr (Path.fileName_congr ?_)
  cases h with
  | slash a b => exact Path.components_slash_slash a b
  | dot a b => exact Path.components_slash_dot_slash a b
  | slashBehind => exact Path.components_append_slash_end p
  | dotBehind => exact Path.components_append_slash_dot p

end Kind

theorem exists_name_of_discovered {t : FileTree} {root snapshotFile : Bytes}
    {cases : List FixtureCase} (h : (Discovery.discover t root snapshotFile).result = .ok cases)
    {c : FixtureCase} (hc : c ∈ cases) : ∃ directory name, t.Lies (join root directory) name ∧
      c.document = join (join root directory) name ∧ c.kind = Kind.ofPath name := by
  obtain ⟨directories, -, -, hcases⟩ := Discovery.cases_of_result h
  obtain ⟨i, hi, rfl⟩ := List.mem_iff_getElem.mp hc
  have hcase := hcases.get (hcases.length_eq ▸ hi) hi
  obtain ⟨name, hchosen, hdocument⟩ := hcase.document
  have hlies := hchosen.qualifies.lies
  refine ⟨_, name, hlies, hdocument, ?_⟩
  rw [FixtureCase.kind]
  exact (congrArg Kind.ofPath hdocument).trans (Kind.ofPath_join hlies.isName _)

/-- The kind of a path is told from its last component, so that it stays the same however the way
there is spelled. The kind of a fixture is that of the name that its document has in its directory,
wherever the root is and whatever it is called by. -/
theorem kind_by_last_component :
    (∀ p, Kind.ofPath p = .action ↔ ∃ text ∈ ["action.yml", "action.yaml"],
      trimEnd p = Text.encode text ∨ slash :: Text.encode text <:+ trimEnd p) ∧
    (∀ p q, Relation.ReflTransGen Kind.Respelled p q → Kind.ofPath q = Kind.ofPath p) ∧
    (∀ above p, Path.isAbsolute p = false → (fileName p).isSome = true →
      Kind.ofPath (above ++ slash :: p) = Kind.ofPath p) ∧
    ∀ (t : FileTree) (root snapshotFile : Bytes) (cases : List FixtureCase),
      (Discovery.discover t root snapshotFile).result = .ok cases → ∀ c ∈ cases,
        ∃ directory name, t.Lies (join root directory) name ∧
          c.document = join (join root directory) name ∧ c.kind = Kind.ofPath name := by
  refine ⟨fun p => Kind.ofPath_eq_action_iff_trimEnd, fun p q h => ?_, fun above p _ h => ?_,
    fun t root snapshotFile cases h c hc => exists_name_of_discovered h hc⟩
  · induction h with
    | refl => rfl
    | tail _ hstep ih => rw [hstep.ofPath_eq, ih]
  · exact Kind.ofPath_congr (Path.fileName_append_slash above h)

namespace OddRoot

/-- One fixture under a root that has more than one name. -/
def tree : FileTree where
  entries :=
    [("r", .directory), ("r/a", .directory), ("r/a/action.yml", .file []), ("r/a/s", .file []),
      ("q", .link (Text.encode "./r"))].map fun e => (Path.split (Text.encode e.1), e.2)
  working := []

def found : FixtureCase := ⟨Text.encode ".//q/./a/action.yml", "", Text.encode ".//q/./a/s", ""⟩

end OddRoot

theorem odd_root_kind :
    (Discovery.discover OddRoot.tree (Text.encode ".//q/.") (Text.encode "s")).result =
      .ok [OddRoot.found] ∧
    (∃ directory name, OddRoot.tree.Lies (join (Text.encode ".//q/.") directory) name ∧
      OddRoot.found.document = join (join (Text.encode ".//q/.") directory) name ∧
      OddRoot.found.kind = Kind.ofPath name) ∧
    OddRoot.found.kind = Kind.ofPath (Text.encode "action.yml") ∧
    Kind.ofPath (OddRoot.found.document ++ slash :: dot) = OddRoot.found.kind := by
  have hfound : (Discovery.discover OddRoot.tree (Text.encode ".//q/.") (Text.encode "s")).result =
      .ok [OddRoot.found] := by cbv
  obtain ⟨-, hspelled, habove, hdiscovered⟩ := kind_by_last_component
  refine ⟨hfound, hdiscovered _ _ _ _ hfound _ List.mem_cons_self, ?_, ?_⟩
  · exact habove (Text.encode ".//q/./a") (Text.encode "action.yml") (by decide_cbv) (by decide_cbv)
  · exact hspelled _ _ (.single (.dotBehind _))

end WorkflowCheck
