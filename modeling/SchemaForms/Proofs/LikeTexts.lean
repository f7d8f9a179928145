import SchemaForms.Documentation
import SchemaForms.Proofs.Likeness

set_option autoImplicit false

namespace SchemaForms

namespace Enlarged

variable {α β : Type} {same : α → β → Prop} {extra : β → Prop} {first : List α} {second : List β}

theorem filter (keep : α → Bool) (kept : β → Bool) (enlarged : Enlarged same extra first second)
    (agree : ∀ a b, same a b → keep a = kept b) :
    Enlarged same (fun b => extra b ∧ kept b = true) (first.filter keep) (second.filter kept) := by
  induction enlarged with
  | nil => exact .nil
  | @both a b _ _ alike _ ih =>
    rw [List.filter_cons, List.filter_cons, agree a b alike]
    split
    · exact .both alike ih
    · exact ih
  | @more b _ _ added _ ih =>
    rw [List.filter_cons]
    split
    · next stays => exact .more ⟨added, stays⟩ ih
    · exact ih

theorem join_map {text : α → String} {spoken : β → String}
    (enlarged : Enlarged same extra first second)
    (parts : ∀ a ∈ first, ∀ b, same a b → text a = spoken b)
    (silent : ∀ b, extra b → spoken b = "") :
    String.join (first.map text) = String.join (second.map spoken) := by
  induction enlarged with
  | nil => rfl
  | @both a b _ _ alike _ ih =>
    obtain ⟨here, later⟩ := List.forall_mem_cons.mp parts
    simp [here b alike, ih later]
  | @more b _ _ added _ ih => simp [silent b added, ih parts]

end Enlarged

/-- Related nodes have one name and text, and no rule for documentation is for additional ones. -/
structure SameTexts (same : Node → Node → Prop) (extra : Node → Prop) : Prop where
  name {a b : Node} : same a b → a.name = b.name
  text {a b : Node} : same a b → a.text = b.text
  children {a b : Node} : same a b → Enlarged same extra a.children b.children
  silent {node : Node} : extra node → node.textContent = ""
  unread {node : Node} : extra node → node.tag ≠ .documentation
  unlisted {node : Node} : extra node → node.name ∉ ["p", "ul", "li"]

namespace SameTexts

variable {same : Node → Node → Prop} {extra : Node → Prop} {a b : Node}

theorem textContent_eq (texts : SameTexts same extra) {a b : Node} (alike : same a b) :
    a.textContent = b.textContent := by
  have below := (texts.children alike).join_map
    (fun child member other alike =>
      have := Node.sizeOf_lt_of_mem_children member
      texts.textContent_eq alike) fun _ added => texts.silent added
  rw [Node.textContent_eq, Node.textContent_eq, Node.textContents_eq_join,
    Node.textContents_eq_join, below, texts.text alike]
termination_by sizeOf a

variable (texts : SameTexts same extra)

include texts

theorem elements (alike : same a b) :
    Enlarged same (fun node => extra node ∧ !node.isText) a.elements b.elements :=
  (texts.children alike).filter _ _ fun _ _ alike => by
    rw [Node.isText, Node.isText, texts.name alike]

theorem join_elements {text : Node → String} (alike : same a b)
    (parts : ∀ child other, same child other → text child = text other)
    (silent : ∀ node, extra node → text node = "") :
    String.join (a.elements.map text) = String.join (b.elements.map text) :=
  (texts.elements alike).join_map (fun _ _ _ alike => parts _ _ alike)
    fun node added => silent node added.1

theorem listItemText_eq (alike : same a b) : a.listItemText = b.listItemText := by
  rw [Node.listItemText, Node.listItemText, texts.name alike, texts.textContent_eq alike]

theorem blockText_eq (alike : same a b) : a.blockText = b.blockText := by
  have items := texts.join_elements alike (fun _ _ => texts.listItemText_eq) fun node added => by
    have unlisted := texts.unlisted added
    simp only [List.mem_cons, not_or] at unlisted
    simp [Node.listItemText, unlisted]
  rw [Node.blockText, Node.blockText, texts.name alike, texts.textContent_eq alike, items]

theorem documentationText_eq (alike : same a b) : a.documentationText = b.documentationText :=
  texts.join_elements alike (fun _ _ => texts.blockText_eq) fun node added => by
    have unlisted := texts.unlisted added
    simp only [List.mem_cons, not_or] at unlisted
    simp [Node.blockText, unlisted]

theorem doc?_eq (alike : same a b) : a.doc? = b.doc? := by
  have documented := (texts.elements alike).filter
    (fun child => child.tag = .documentation) (fun child => child.tag = .documentation)
    fun _ _ alike => by rw [Node.tag, Node.tag, texts.name alike]
  have parts := documented.join_map (fun _ _ _ alike => texts.documentationText_eq alike)
    fun node added => absurd (by simpa using added.2) (texts.unread added.1.1)
  simp only [Node.doc?, parts]

end SameTexts

end SchemaForms
