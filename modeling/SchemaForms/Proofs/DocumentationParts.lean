import SchemaForms.Proofs.RestrictionReading

set_option autoImplicit false

namespace SchemaForms

namespace Node

def documented (child : Node) : List Node :=
  if child.tag = .documentation then child.elements else []

def blocks (remark : Node) : List Node := remark.children.flatMap documented

def blocksText (remark : Node) : String := String.join (remark.blocks.map blockText)

/-- A block without a character to show: no list, and no paragraph with text. -/
def Silent (block : Node) : Prop :=
  block.name ≠ "ul" ∧ (block.name = "p" → block.textContent = "")

def condensed (node : Node) : Node :=
  { node with children := [ofText node.textContent], text := none }

/-- A block of documentation with the markup of a paragraph or of a list item taken away. -/
inductive Condenses (block : Node) : Node → Prop
  | paragraph (named : block.name = "p") : Condenses block block.condensed
  | item (before after : List Node) (item : Node) (named : block.name = "ul")
      (listed : item.name = "li") (children : block.children = before ++ item :: after) :
      Condenses block { block with children := before ++ item.condensed :: after }

/-- An annotation in other words: one of its `documentation` children cut in two, or with a block
condensed. -/
inductive Rephrases (remark : Node) : Node → Prop
  | cut (before after : List Node) (documentation first second : Node)
      (children : remark.children = before ++ documentation :: after)
      (tagged : documentation.tag = .documentation) (firstTagged : first.tag = .documentation)
      (secondTagged : second.tag = .documentation)
      (parts : documentation.children = first.children ++ second.children) :
      Rephrases remark { remark with children := before ++ first :: second :: after }
  | condense (before after front back : List Node) (documentation block brief : Node)
      (children : remark.children = before ++ documentation :: after)
      (blocks : documentation.children = front ++ block :: back) (shorter : block.Condenses brief) :
      Rephrases remark
        { remark with
          children := before ++
            { documentation with children := front ++ brief :: back } :: after }

theorem documented_of_tag {documentation : Node} (tagged : documentation.tag = .documentation) :
    documentation.documented = documentation.elements := if_pos tagged

theorem blocks_eq_filter (remark : Node) :
    remark.blocks =
      (remark.elements.filter fun child => child.tag = .documentation).flatMap elements := by
  rw [blocks, elements, List.filter_filter]
  induction remark.children with
  | nil => rfl
  | cons child rest ih =>
    rw [List.flatMap_cons, ih]
    by_cases tagged : child.tag = .documentation
    · have apart : child.isText = false := by
        rw [Bool.eq_false_iff, ne_eq, isText_iff, tagged]
        simp
      simp [documented, tagged, apart]
    · simp [documented, tagged]

theorem join_eq_empty_iff (parts : List String) :
    String.join parts = "" ↔ ∀ part ∈ parts, part = "" := by
  induction parts with
  | nil => simp
  | cons part rest ih => rw [String.join_cons, String.append_eq_empty_iff, ih, List.forall_mem_cons]

theorem doc?_eq (remark : Node) :
    remark.doc? = if remark.blocksText = "" then none else some remark.blocksText := by
  have parts (children : List Node) :
      String.join (children.map documentationText) =
        String.join ((children.flatMap elements).map blockText) :=
    (join_flatMap children elements blockText documentationText fun _ _ => rfl).symm
  rw [doc?, parts, ← blocks_eq_filter, ← blocksText]
  simp

theorem blockText_eq_empty_iff (block : Node) : block.blockText = "" ↔ block.Silent := by
  by_cases paragraph : block.name = "p"
  · simp [blockText, Silent, paragraph]
  · by_cases list : block.name = "ul" <;> simp [blockText, Silent, paragraph, list]

theorem blocksText_eq_empty_iff (remark : Node) :
    remark.blocksText = "" ↔ ∀ block ∈ remark.blocks, block.Silent := by
  simp only [blocksText, join_eq_empty_iff, List.forall_mem_map, blockText_eq_empty_iff]

theorem blocksText_append {first second joined : Node}
    (children : joined.children = first.children ++ second.children) :
    joined.blocksText = first.blocksText ++ second.blocksText := by
  simp [blocksText, blocks, children]

theorem textContent_condensed (node : Node) : node.condensed.textContent = node.textContent := by
  simp [condensed, textContent_eq, ofText, textContents]

theorem listItemText_condensed (item : Node) :
    item.condensed.listItemText = item.listItemText := by
  rw [listItemText, listItemText, textContent_condensed]
  rfl

namespace Condenses

variable {block brief : Node} (shorter : block.Condenses brief)

include shorter

theorem name_eq : brief.name = block.name := by
  cases shorter <;> rfl

theorem blockText_eq : brief.blockText = block.blockText := by
  cases shorter with
  | paragraph named =>
    have brief : block.condensed.name = "p" := named
    rw [blockText, blockText, if_pos brief, if_pos named, textContent_condensed]
  | item before after item named listed children =>
    have unread : item.condensed.isText = item.isText := rfl
    have lines : String.join ((elements
          { block with children := before ++ item.condensed :: after }).map listItemText) =
        String.join (block.elements.map listItemText) := by
      cases text : item.isText <;>
        simp [elements, children, unread, text, listItemText_condensed]
    have list : block.name ≠ "p" := by simp [named]
    rw [blockText, blockText, lines, if_neg list, if_neg list]

end Condenses

theorem Rephrases.doc?_eq {remark other : Node} (rephrased : remark.Rephrases other) :
    other.doc? = remark.doc? := by
  suffices same : other.blocksText = remark.blocksText by
    rw [Node.doc?_eq, Node.doc?_eq, same]
  cases rephrased with
  | cut before after documentation first second children tagged firstTagged secondTagged parts =>
    have elements : documentation.elements = first.elements ++ second.elements := by
      simp [Node.elements, parts]
    simp [blocksText, blocks, children, documented_of_tag, tagged, firstTagged, secondTagged,
      elements]
  | condense before after front back documentation block brief children blocks shorter =>
    have unread : brief.isText = block.isText := by rw [isText, isText, shorter.name_eq]
    have texts : String.join ((documented
          { documentation with children := front ++ brief :: back }).map blockText) =
        String.join (documentation.documented.map blockText) := by
      have tag : Node.tag { documentation with children := front ++ brief :: back } =
          documentation.tag := rfl
      cases text : block.isText <;>
        by_cases tagged : documentation.tag = .documentation <;>
          simp [documented, tag, tagged, elements, blocks, unread, text, shorter.blockText_eq]
    simp [blocksText, Node.blocks, children, texts]

end Node

namespace Field

def annotate (field : Field) (remark : Node) : Field :=
  field.applyAll ((Rule.docSteps remark).filterMap Step.edit?)

def document (field : Field) (text : String) : Field :=
  { field with doc := if text = "" then field.doc else some (field.doc.getD "" ++ text) }

@[simp]
theorem document_empty (field : Field) : field.document "" = field := by
  cases field
  simp [document]

theorem document_append (field : Field) (first second : String) :
    (field.document first).document second = field.document (first ++ second) := by
  by_cases silent : first = ""
  · simp [document, silent]
  · by_cases quiet : second = ""
    · simp [document, quiet]
    · simp [document, silent, quiet, String.append_assoc]

theorem annotate_eq (field : Field) (remark : Node) :
    field.annotate remark = field.document remark.blocksText := by
  by_cases silent : remark.blocksText = ""
  · simp [annotate, Rule.docSteps, Node.doc?_eq, silent]
  · simp [annotate, Rule.docSteps, Node.doc?_eq, silent, Step.edit?, document, apply]

theorem annotate_all (field : Field) (remarks : List Node) :
    remarks.foldl annotate field = field.document (String.join (remarks.map Node.blocksText)) := by
  induction remarks generalizing field with
  | nil => simp
  | cons remark rest ih =>
    rw [List.foldl_cons, ih, annotate_eq, document_append, List.map_cons, String.join_cons]

theorem doc_document {field : Field} (bare : field.doc = none) (text : String) :
    (field.document text).doc = if text = "" then none else some text := by
  simp [document, bare]

theorem documentation_joins :
    (∀ (field : Field) (first second joined : Node),
      joined.children = first.children ++ second.children →
        (field.annotate first).annotate second = field.annotate joined) ∧
    (∀ remark other : Node, remark.Rephrases other → other.doc? = remark.doc?) ∧
    (∀ remark : Node, remark.doc? ≠ some "" ∧
      (remark.doc? = none ↔ ∀ block ∈ remark.blocks, block.Silent)) ∧
    ∀ (field : Field) (remarks : List Node), field.doc = none →
      (remarks.foldl annotate field).doc ≠ some "" ∧
      ((remarks.foldl annotate field).doc = none ↔
        ∀ remark ∈ remarks, ∀ block ∈ remark.blocks, block.Silent) := by
  refine ⟨fun field first second joined children => ?_, fun _ _ => Node.Rephrases.doc?_eq,
    fun remark => ?_, fun field remarks bare => ?_⟩
  · simp only [annotate_eq, document_append, Node.blocksText_append children]
  · rw [Node.doc?_eq, ← Node.blocksText_eq_empty_iff]
    split <;> simp_all
  · have silent : String.join (remarks.map Node.blocksText) = "" ↔
        ∀ remark ∈ remarks, ∀ block ∈ remark.blocks, block.Silent := by
      simp only [Node.join_eq_empty_iff, List.forall_mem_map, Node.blocksText_eq_empty_iff]
    rw [annotate_all, doc_document bare, ← silent]
    split <;> simp_all

end Field

end SchemaForms
