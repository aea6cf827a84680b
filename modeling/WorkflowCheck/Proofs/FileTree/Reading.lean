import WorkflowCheck.Proofs.FileTree.Refill

/-! What is read from a file tree: a path gives bytes exactly when it leads to a file, and a text
exactly when the bytes are the encoding of that text. -/

namespace WorkflowCheck

theorem Text.decode?_eq_some {bytes : Bytes} {text : String} :
    Text.decode? bytes = some text ↔ bytes = Text.encode text := by
  constructor
  · intro h
    simp only [decode?, String.fromUTF8?] at h
    split at h
    · cases h
      simp [encode, String.toUTF8, String.fromUTF8]
    · simp at h
  · rintro rfl
    exact decode?_encode text

namespace FileTree

/-- The place that a path leads to. -/
def place? (t : FileTree) (path : Bytes) : Option Place := (t.entry path).toOption.map (·.1)

variable {t : FileTree} {path : Bytes}

theorem read_eq_ok {content : Bytes} :
    t.read path = .ok content ↔ ∃ p, t.entry path = .ok (p, .file content) := by
  unfold read
  rcases t.entry path with cause | ⟨p, e⟩
  · simp
  · cases e <;> simp

theorem isFile_eq_true :
    t.isFile path = true ↔ ∃ p content, t.entry path = .ok (p, .file content) := by
  unfold isFile
  rcases t.entry path with cause | ⟨p, e⟩
  · simp
  · cases e <;> simp

theorem readText_eq_ok {text : String} :
    t.readText path = .ok text ↔ t.read path = .ok (Text.encode text) := by
  unfold readText
  cases t.read path with
  | error cause => simp
  | ok content =>
    rw [ok_bind, Except.ok.injEq, ← Text.decode?_eq_some]
    cases Text.decode? content <;> simp

theorem place?_refill (f : Place → Bytes → Bytes) : (t.refill f).place? path = t.place? path := by
  unfold place?
  rw [entry_refill]
  cases t.entry path <;> rfl

theorem place?_of_entry {p : Place} {e : Entry} (h : t.entry path = .ok (p, e)) :
    t.place? path = some p := by
  simp [place?, h, Except.toOption]

theorem readText_refill {text text' : String} {f : Place → Bytes → Bytes}
    (h : t.readText path = .ok text)
    (hf : ∀ p, t.place? path = some p → f p (Text.encode text) = Text.encode text') :
    (t.refill f).readText path = .ok text' := by
  obtain ⟨p, hp⟩ := read_eq_ok.mp (readText_eq_ok.mp h)
  rw [readText_eq_ok, read_refill t f hp, hf p (place?_of_entry hp)]

end FileTree

end WorkflowCheck
