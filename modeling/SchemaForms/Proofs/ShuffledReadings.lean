import SchemaForms.Proofs.AttributeOrder
import SchemaForms.Proofs.LikeReadings

set_option autoImplicit false

namespace SchemaForms

theorem Pairs.last?_around {key : String} {offers : String → Prop}
    {before inner after former within later : Pairs}
    (outside : last? (before ++ after) key = last? (former ++ later) key)
    (inside : inner.last? key = within.last? key)
    (offered : ∀ value other, last? (before ++ after) key = some value →
      inner.last? key = some other → offers value ∧ offers other) :
    StandsFor (fun one other => offers one ∧ offers other)
      (last? (before ++ (inner ++ after)) key) (last? (former ++ (within ++ later)) key) := by
  simp only [last?_append] at outside offered ⊢
  rw [← inside]
  cases held : inner.last? key with
  | none =>
    simp only [Option.or_none, outside]
    exact StandsFor.refl _ _
  | some one =>
    cases first : after.last? key with
    | none =>
      cases second : later.last? key with
      | none => exact .some (.inl rfl)
      | some value =>
        obtain ⟨own, given⟩ :=
          offered value one (by simpa [first, second] using outside) held
        exact .some (.inr ⟨given, own⟩)
    | some value =>
      obtain ⟨own, given⟩ := offered value one (by simp [first]) held
      cases second : later.last? key with
      | none => exact .some (.inr ⟨own, given⟩)
      | some last =>
        have equal : value = last := by simpa [first, second] using outside
        exact .some (.inl equal)

theorem Filling.edits_append (edits : List Edit) (rest : Filling) :
    ({ edits } : Filling) ++ rest = { rest with edits := edits ++ rest.edits } := rfl

namespace Rule

variable {first second : Catalogue} {opened : List String}

/-- The pairs of an attribute declaration that its field gets as they are. -/
def kept (attributes : Pairs) : Pairs :=
  attributes.filter fun pair => pair.1 ∉ ["name", "use", "type"]

theorem flatMap_attributePair {attributes : Pairs}
    (untyped : ∀ pair ∈ attributes, pair.1 ≠ "type") :
    attributes.flatMap (attributePair first) = (Edits.extras (kept attributes)).map .edit := by
  induction attributes with
  | nil => rfl
  | cons pair rest ih =>
    obtain ⟨here, later⟩ := List.forall_mem_cons.mp untyped
    rw [List.flatMap_cons, ih later]
    by_cases settled : pair.1 = "name" ∨ pair.1 = "use"
    · have dropped : kept (pair :: rest) = kept rest :=
        List.filter_cons_of_neg (by rcases settled with given | given <;> simp [given])
      simp [attributePair, settled, dropped]
    · have copied : kept (pair :: rest) = pair :: kept rest :=
        List.filter_cons_of_pos (by simpa [here] using settled)
      simp [attributePair, settled, here, copied, Edits.extras]

theorem gather_untyped {attributes : Pairs} (untyped : ∀ pair ∈ attributes, pair.1 ≠ "type") :
    Filling.gather (Step.fill first opened) (attributes.flatMap (attributePair first)) =
      { edits := Edits.extras (kept attributes) } := by
  rw [flatMap_attributePair untyped, gather_only_edits]

theorem typed_cases {attributes : Pairs} (distinct : attributes.keys.Nodup) {text : String}
    (typed : attributes.first? "type" = some text) :
    ∃ before after, attributes = before ++ ("type", text) :: after ∧
      (∀ pair ∈ before, pair.1 ≠ "type") ∧ ∀ pair ∈ after, pair.1 ≠ "type" := by
  obtain ⟨before, after, rfl⟩ :=
    List.append_of_mem ((Pairs.first?_eq_some_iff distinct).mp typed)
  refine ⟨before, after, rfl, ?_⟩
  have apart := List.nodup_middle.mp (by simpa [Pairs.keys] using distinct)
  have free := (List.nodup_cons.mp apart).1
  refine ⟨fun pair member same => free ?_, fun pair member same => free ?_⟩
  · exact List.mem_append_left _ (List.mem_map.mpr ⟨pair, member, same⟩)
  · exact List.mem_append_right _ (List.mem_map.mpr ⟨pair, member, same⟩)

theorem gather_typed {before after : Pairs} {text : String}
    (free : ∀ pair ∈ before, pair.1 ≠ "type") (rest : ∀ pair ∈ after, pair.1 ≠ "type") :
    Filling.gather (Step.fill first opened)
        ((before ++ ("type", text) :: after).flatMap (attributePair first)) =
      { edits := Edits.extras (kept before) } ++
        (typing first opened false text ++ { edits := Edits.extras (kept after) }) := by
  have read : attributePair first ("type", text) = (typeRole false).steps first text := by
    simp [attributePair]
  rw [List.flatMap_append, List.flatMap_cons, Filling.gather_append, Filling.gather_append,
    gather_untyped free, gather_untyped rest, read]
  rfl

theorem kept_typed (before after : Pairs) (text : String) :
    kept (before ++ ("type", text) :: after) = kept before ++ kept after := by
  simp [kept]

end Rule

namespace Likeness

variable {first second catalogue : Catalogue} {leeway : Leeway} {opened : List String} {a b : Node}

def Rivals (offers : String → String → Prop) (key one other : String) : Prop :=
  offers key one ∧ offers key other

theorem ends_around {reading moved : Filling} {before after former later : Pairs}
    {offers : String → String → Prop}
    (alike : (shuffling catalogue leeway).SameFilling reading moved)
    (moves : (before ++ after).Perm (former ++ later))
    (distinct : (Pairs.keys (before ++ after)).Nodup)
    (offered : reading.failure = none → ∀ key value other, (key, value) ∈ before ++ after →
      reading.pairs.last? key = some other → offers key value ∧ offers key other) :
    (shuffling catalogue leeway).Ends (Edits.Alike leeway (Rivals offers))
      ({ edits := Edits.extras before } ++ (reading ++ { edits := Edits.extras after }))
      ({ edits := Edits.extras former } ++ (moved ++ { edits := Edits.extras later })) := by
  have ends := alike.fails_iff
  rw [Filling.edits_append, Filling.edits_append]
  cases failed : reading.failure with
  | some trail =>
    have refused : moved.failure.isSome = true := by simp [← ends, failed]
    rw [Filling.append_of_failure _ (by simp [failed]), Filling.append_of_failure _ refused]
    exact ⟨alike.notes, alike.failure, fun done => absurd done (by simp [failed])⟩
  | none =>
    have done : moved.failure = none := by simpa [failed] using ends.symm
    rw [Filling.append_of_success _ failed, Filling.append_of_success _ done]
    have set : Edits.Alike leeway (fun _ _ _ => False) reading.edits moved.edits :=
      alike.edits failed
    have notes := alike.notes
    have rest := set.rest
    refine ⟨by simpa using notes, .none, fun _ => ⟨by simpa using rest, fun key => ?_⟩⟩
    simp only [List.filterMap_append, Edits.pairs_extras]
    exact Pairs.last?_around (Pairs.last?_perm moves distinct key)
      ((set.pairs key).eq fun _ _ => id)
      fun value other held => offered failed key value other (Pairs.mem_of_last? held)

theorem offers_typing {text key value other : String} (typed : a.attr "type" = some text)
    (done : (Rule.typing first opened false text).failure = none)
    (member : (key, value) ∈ Rule.kept a.attributes)
    (given : (Rule.typing first opened false text).pairs.last? key = some other) :
    a.OffersPair first key value ∧ a.OffersPair first key other := by
  obtain ⟨inside, passed⟩ := List.mem_filter.mp member
  refine ⟨.own inside (by simpa using passed), ?_⟩
  rcases Rule.pairs_typing_cases done with none | whole
  · rw [none] at given
    contradiction
  · rw [whole] at given
    exact .typed typed given

theorem attributes_alike (catalogues : (shuffling first leeway).SameCatalogue first second)
    (alike : a.Alike first leeway b)
    (each : ∀ step ∈ a.attributes.flatMap (Rule.attributePair first), ∀ other,
      (shuffling first leeway).SameStep step other →
        (shuffling first leeway).SameFilling (step.fill first opened) (other.fill second opened)) :
    (shuffling first leeway).Ends (Edits.Alike leeway (Rivals (a.OffersPair first)))
      (.gather (Step.fill first opened) (a.attributes.flatMap (Rule.attributePair first)))
      (.gather (Step.fill second opened) (b.attributes.flatMap (Rule.attributePair second))) := by
  have moves := alike.shuffled.attributes
  have distinct := alike.here.distinct
  have unique : b.attributes.keys.Nodup := (moves.map _).nodup_iff.mp distinct
  have keeps : (Rule.kept a.attributes).Perm (Rule.kept b.attributes) := moves.filter _
  have kept_distinct : (Rule.kept a.attributes).keys.Nodup := Pairs.keys_filter_nodup distinct _
  cases typed : a.attr "type" with
  | none =>
    have untyped : ∀ pair ∈ a.attributes, pair.1 ≠ "type" := by
      simpa [Node.attr, Pairs.first?] using typed
    rw [Rule.gather_untyped untyped, Rule.gather_untyped fun pair member =>
      untyped pair (moves.mem_iff.mpr member)]
    exact ⟨.nil, .none, fun _ => Edits.extras_alike leeway keeps kept_distinct⟩
  | some text =>
    obtain ⟨before, after, here, free, rest⟩ := Rule.typed_cases distinct typed
    obtain ⟨former, later, there, freed, rested⟩ :=
      Rule.typed_cases unique (by rw [← typed]; exact (alike.attr "type").symm)
    have split : Rule.kept a.attributes = Rule.kept before ++ Rule.kept after := by
      rw [here, Rule.kept_typed]
    have reading : (shuffling first leeway).SameFilling (Rule.typing first opened false text)
        (Rule.typing second opened false text) := by
      refine .gather (role_like catalogues (Rule.typeRole false) rfl) fun step inside =>
        each step ?_
      rw [here]
      refine List.mem_flatMap.mpr ⟨("type", text), by simp, ?_⟩
      simpa [Rule.attributePair] using inside
    rw [split] at keeps kept_distinct
    rw [there, Rule.kept_typed] at keeps
    rw [here, there, Rule.gather_typed free rest, Rule.gather_typed freed rested]
    exact ends_around reading keeps kept_distinct fun done key value other member given =>
      offers_typing typed done (split ▸ member) given

theorem declares_shuffled (catalogues : (shuffling first leeway).SameCatalogue first second) :
    (shuffling first leeway).Declares first second := by
  intro opened a b alike tagged each
  simp only [Rule.steps, List.forall_mem_append] at each
  have attributes := attributes_alike catalogues alike each.1
  have children := SameFilling.gather (children_like attributeChild_like alike) each.2
  have read : (shuffling first leeway).Ends (Edits.Alike leeway (Rivals (a.OffersPair first)))
      (Rule.attributeDecl.fill first opened a) (Rule.attributeDecl.fill second opened b) := by
    rw [Rule.fill_eq, Rule.fill_eq]
    simp only [Rule.steps, Filling.gather_append]
    exact .under alike (attributes.append children fun made added =>
      made.append (added.imp fun _ _ _ => False.elim))
  rw [← attributeField_eq alike]
  refine read.place_item a.attributeField fun done => a.attributeField.resembles_applyAll ?_
  refine (read.edits done).imp fun key one other rivals => ?_
  obtain ⟨offered, also⟩ := rivals
  exact alike.here.pairs tagged opened key one other offered also

end Likeness

end SchemaForms
