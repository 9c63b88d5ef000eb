import Schemata.Proofs.Answered

/-!
Validation in place: the same visits step by step on slots that are there already, each node reading
its answer back from its own slot. Main statement: step by step, a schema answers what it answers
otherwise, its nodes answer in the order of the calls, and the slots are left as they are otherwise.
-/

namespace Schemata

/-- What a run has in hand: the slots, and the answers that nodes have given so far. -/
structure Work where
  slots : Slots
  answers : List Answered := []

/-- A run on slots in place. What it has written stays, also if it fails. -/
abbrev Live := ExceptT ValidationError (StateM Work)

namespace Live

variable {α β : Type}

/-- The same run with its error seen from one step further up in the document. -/
def under (segment : PathSegment) (live : Live α) : Live α :=
  live.adapt (·.under segment)

/-- A call of the node at a place: its slot is emptied and, if all goes well, filled. The answer is
what the slot then holds. -/
def call (place : Place) (live : Live Document) : Live Document := fun work =>
  let (outcome, work) := live { work with slots := work.slots.write (place, none) }
  match outcome with
  | .ok value =>
    let slots := work.slots.write (place, some value)
    let answer := .ok ((slots.get? place).getD value)
    (answer, ⟨slots, work.answers ++ [(place, answer)]⟩)
  | .error error => (.error error, ⟨work.slots, work.answers ++ [(place, .error error)]⟩)

/-- The run of a node whose value is checked at the end. -/
def checked (check : Document → Except ValidationError Unit) (live : Live Document) :
    Live Document := do
  let value ← live
  ExceptT.mk (pure (check value))
  return value

end Live

theorem ArrayLayout.sizeOf_lt_of_schema? {layout : ArrayLayout Schema} {index : Nat}
    {child : Schema} (here : layout.schema? index = some child) (options : Options) :
    sizeOf child < sizeOf (Schema.array options layout) := by
  have fits := (nodeAt_of_schema? here options).sizeOf_add_length_le
  rw [List.length_singleton] at fits
  omega

theorem sizeOf_lt_of_locate? {own : Properties Schema} {extras : List (Properties Schema)}
    {key : String} {steps : Place} {child : Schema}
    (here : locate? own extras key = some (steps, child)) (options : Options) :
    sizeOf child < sizeOf (Schema.object options own extras) := by
  have fits := (nodeAt_of_locate? here options).sizeOf_add_length_le
  have some : 0 < steps.length := by
    obtain ⟨step, rfl | rfl⟩ := steps_of_locate? here <;> exact Nat.zero_lt_succ _
  omega

theorem sizeOf_lt_of_named {own : Properties Schema} {property : String × Schema}
    (here : property ∈ own.named) (options : Options) (extras : List (Properties Schema)) :
    sizeOf property.2 < sizeOf (Schema.object options own extras) := by
  have smaller := Properties.sizeOf_lt_of_named here
  rw [Schema.object.sizeOf_spec]
  omega

/-- A run that does step by step, for the node at a place, what a visit tells of and the answers
say. -/
def Performs (place : Place) (live : Live α) (visit : Visit α) (answers : List Answered) : Prop :=
  ∀ work : Work, live work =
    (visit.outcome,
      ⟨work.slots.writeAll (seenFrom place visit.writes), work.answers ++ seenFrom place answers⟩)

namespace Performs

variable {α β : Type} {place : Place}

theorem ofExcept (place : Place) (outcome : Except ValidationError α) :
    Performs place (ExceptT.mk (pure outcome)) (.ofExcept outcome) [] := by
  intro work
  show (outcome, work) = (outcome, ⟨work.slots, work.answers ++ []⟩)
  rw [List.append_nil]

theorem pure (place : Place) (a : α) : Performs place (Pure.pure a) (Pure.pure a) [] :=
  ofExcept place (.ok a)

theorem fail (place : Place) (error : ValidationError) :
    Performs place (throw error : Live α) (.fail error) [] :=
  ofExcept place (.error error)

theorem bind {live : Live α} {visit : Visit α} {answers : List Answered} {next : α → Live β}
    {onward : α → Visit β} {more : α → List Answered} (first : Performs place live visit answers)
    (second : ∀ a, Performs place (next a) (onward a) (more a)) :
    Performs place (live >>= next) (visit >>= onward)
      (answers ++ match visit.outcome with
        | .ok a => more a
        | .error _ => []) := by
  intro work
  have run : (live >>= next) work = match live work with
      | (.ok a, work) => next a work
      | (.error error, work) => (.error error, work) := by
    show (match live work with | (outcome, work) => ExceptT.bindCont next outcome work) = _
    rcases live work with ⟨error | a, work⟩
    · rfl
    · rfl
  rw [run, first work, Visit.outcome_bind, Visit.writes_bind, seenFrom_append, seenFrom_append,
    Slots.writeAll_append]
  cases visit.outcome with
  | ok a =>
    show next a _ = _
    rw [second a, List.append_assoc]
    rfl
  | error error =>
    show _ = (_, (⟨_, work.answers ++ (seenFrom place answers ++ [])⟩ : Work))
    rw [List.append_nil]
    rfl

theorem under {live : Live α} {visit : Visit α} {answers : List Answered}
    (performs : Performs place live visit answers) (segment : PathSegment) :
    Performs place (live.under segment) (visit.under segment) answers := by
  intro work
  have run : (live.under segment) work =
      ((live work).1.mapError (·.under segment), (live work).2) := by
    show (match live work with
      | (outcome, work) =>
        (outcome.mapError fun error : ValidationError => error.under segment, work)) = _
    rfl
  rw [run, performs work]
  rfl

/-- A step in which no node answers. -/
theorem andThen {live : Live α} {visit : Visit α} {answers : List Answered} {next : α → Live β}
    {onward : α → Visit β} (first : Performs place live visit answers)
    (second : ∀ a, Performs place (next a) (onward a) []) :
    Performs place (live >>= next) (visit >>= onward) answers := by
  have both := first.bind second
  cases done : visit.outcome <;> simpa only [done, List.append_nil] using both

theorem mapM {live : α → Live β} {visit : α → Visit β} {answers : α → List Answered}
    {answer : α → Except ValidationError β} (items : List α)
    (outcome : ∀ item, (visit item).outcome = answer item)
    (each : ∀ item ∈ items, Performs place (live item) (visit item) (answers item)) :
    Performs place (items.mapM live) (Visit.each visit items)
      ((upToRejected answer items).flatMap answers) := by
  induction items with
  | nil => exact pure place []
  | cons first rest ih =>
    have further := ih fun item member => each item (List.mem_cons_of_mem _ member)
    have onward (value : β) := further.andThen fun values => pure place (value :: values)
    have all := (each first List.mem_cons_self).bind onward
    rw [outcome first] at all
    rw [List.mapM_cons, Visit.each, upToRejected, List.flatMap_cons]
    cases done : answer first with
    | ok value => simpa only [done] using all
    | error error => simpa only [done, List.flatMap_nil] using all

/-- A call of the node itself. -/
theorem published {live : Live Document} {visit : Visit Document} {answers : List Answered}
    (performs : Performs place live visit answers) :
    Performs place (Live.call place live) visit.publish (answers ++ [([], visit.outcome)]) := by
  intro work
  have own {γ : Type} (entry : γ) : seenFrom place [([], entry)] = [(place, entry)] := by
    rw [seenFrom, List.map_singleton, List.append_nil]
  have writes : seenFrom place visit.publish.writes =
      (place, none) :: seenFrom place visit.writes ++ match visit.outcome with
        | .ok value => [(place, some value)]
        | .error _ => [] := by
    rw [Visit.publish, seenFrom_append, ← List.singleton_append, seenFrom_append, own]
    cases visit.outcome with
    | ok value => rw [own]; rfl
    | error error => rfl
  rw [writes, seenFrom_append, own, Visit.outcome_publish, Live.call, performs]
  cases visit.outcome with
  | ok value =>
    simp only [Slots.writeAll_append, Slots.get?_write, ↓reduceIte, Option.getD_some,
      List.append_assoc]
    rfl
  | error error =>
    simp only [List.append_nil, List.append_assoc]
    rfl

/-- A call of a node further down, seen from above. -/
theorem call {place steps : Place} {live : Live Document} {schema : Schema} {doc : Document}
    {known : Vocabulary}
    (performs : Performs (place ++ steps) live (schema.validate known doc)
      (schema.answered known doc)) :
    Performs place live (Schema.visitorAt known (steps, schema) doc)
      (Call.answered known ⟨steps, schema, doc⟩) := by
  intro work
  rw [performs work, Schema.writes_visitorAt, Schema.outcome_visitorAt, Call.writes, Call.answered,
    seenFrom_seenFrom, seenFrom_seenFrom]
  rfl

end Performs

namespace Schema

/-- Validation of a document in place, by the node at a place. -/
def live (known : Vocabulary) (place : Place) (schema : Schema) (doc : Document) : Live Document :=
  Live.call place <| Live.checked (schema.check known) <|
    match schema with
    | leaf kind options => ExceptT.mk (pure (kind.sanitize known options doc))
    | array _ layout =>
      match doc with
      | .array items =>
        if items.length < layout.required then
          throw ⟨.sizeMismatch layout.required items.length, []⟩
        else do
          let values ← items.zipIdx.mapM fun element =>
            match _here : layout.schema? element.2 with
            | some child =>
              (live known (place ++ [layout.stepTo element.2]) child element.1).under
                (.index element.2)
            | none => pure element.1
          return .array values
      | other => throw (.typeMismatch "array" other)
    | object options own extras =>
      match doc with
      | .object members => do
        let kept ← members.entries.mapM fun member =>
          match _here : locate? own extras member.1 with
          | some (steps, child) => do
            let value ← (live known (place ++ steps) child member.2).under (.key member.1)
            return (member.1, value)
          | none => if options.strict then throw ⟨.unknownKey member.1, []⟩ else pure member
        let filled ← own.named.mapM fun property =>
          if members.contains property.1 then pure none
          else match property.2.options.default? with
            | some default => do
              let value ← (live known (place ++ [.property property.1]) property.2 default).under
                (.key property.1)
              return some (property.1, value)
            | none =>
              if property.2.options.required then throw ⟨.missingKey property.1, []⟩
              else pure none
        return .object (KeyMap.overlay ⟨kept⟩ ⟨filled.filterMap id⟩)
      | other => throw (.typeMismatch "object" other)
    | composite _ _ inner sanitizer => do
      let value ← live known (place ++ [.inner]) inner doc
      match sanitizer with
      | some sanitizer => ExceptT.mk (pure (sanitizer value))
      | none => return value
termination_by sizeOf schema
decreasing_by
  · exact ArrayLayout.sizeOf_lt_of_schema? ‹_› _
  · exact sizeOf_lt_of_locate? ‹_› _
  · exact sizeOf_lt_of_named ‹_› _ _
  · rw [composite.sizeOf_spec]
    omega

section

variable {known : Vocabulary}

/-- A node does step by step what it does otherwise. -/
def LiveAs (known : Vocabulary) (schema : Schema) : Prop :=
  ∀ place doc, Performs place (schema.live known place doc) (schema.validate known doc)
    (schema.answered known doc)

theorem LiveAs.under {child : Schema} (alike : LiveAs known child) (place steps : Place)
    (doc : Document) (segment : PathSegment) :
    Performs place ((child.live known (place ++ steps) doc).under segment)
      ((visitorAt known (steps, child) doc).under segment)
      ([⟨steps, child, doc⟩].flatMap (Call.answered known)) := by
  rw [List.flatMap_singleton]
  exact (Performs.call (alike (place ++ steps) doc)).under segment

theorem performs_item {layout : ArrayLayout Schema}
    (below : ∀ child index, layout.schema? index = some child → LiveAs known child)
    (place : Place) (element : Document × Nat) :
    Performs place
      (match _here : layout.schema? element.2 with
        | some child =>
          (live known (place ++ [layout.stepTo element.2]) child element.1).under (.index element.2)
        | none => pure element.1)
      (itemVisit known layout element)
      ((itemCalls layout element).flatMap (Call.answered known)) := by
  unfold itemVisit itemCalls
  split
  · next child here =>
    rw [here]
    exact (below child _ here).under place _ _ _
  · next none =>
    rw [none]
    exact .pure place _

theorem performs_member {own : Properties Schema} {extras : List (Properties Schema)}
    (below : ∀ child key steps, locate? own extras key = some (steps, child) → LiveAs known child)
    (strict : Bool) (place : Place) (member : String × Document) :
    Performs place
      (match _here : locate? own extras member.1 with
        | some (steps, child) => do
          let value ← (live known (place ++ steps) child member.2).under (.key member.1)
          return (member.1, value)
        | none => if strict then throw ⟨.unknownKey member.1, []⟩ else pure member)
      (memberVisit known strict (locate? own extras) member)
      ((memberCalls own extras member).flatMap (Call.answered known)) := by
  unfold memberVisit memberCalls
  split
  · next steps child here =>
    rw [here]
    exact ((below child _ steps here).under place _ _ _).andThen fun value => .pure place _
  · next none =>
    rw [none]
    cases strict with
    | true => exact .fail place _
    | false => exact .pure place _

theorem performs_absent {property : String × Schema} (below : LiveAs known property.2)
    (given : KeyMap Document) (place : Place) :
    Performs place
      (if given.contains property.1 then pure none
        else match property.2.options.default? with
          | some default => do
            let value ← (live known (place ++ [.property property.1]) property.2 default).under
              (.key property.1)
            return some (property.1, value)
          | none =>
            if property.2.options.required then throw ⟨.missingKey property.1, []⟩ else pure none)
      (absentVisit known given property)
      ((absentCalls given property).flatMap (Call.answered known)) := by
  unfold absentVisit absentCalls
  by_cases present : given.contains property.1 = true
  · simp only [present, ↓reduceIte]
    exact .pure place _
  · simp only [present, Bool.false_eq_true, ↓reduceIte]
    cases property.2.options.default? with
    | some default => exact (below.under place _ _ _).andThen fun value => .pure place _
    | none =>
      cases property.2.options.required with
      | true => exact .fail place _
      | false => exact .pure place _

/-- A node does what it does otherwise, if the nodes further down do. -/
theorem liveAs_of_below {schema : Schema}
    (below : ∀ child, sizeOf child < sizeOf schema → LiveAs known child) :
    LiveAs known schema := by
  intro place doc
  rw [answered_eq, live.eq_def]
  refine Performs.published (Performs.andThen ?_ fun value =>
    (Performs.ofExcept place _).andThen fun _ => .pure place value)
  cases schema with
  | leaf kind options => exact .ofExcept place _
  | array options layout =>
    cases doc with
    | array items =>
      simp only [sanitize, calls, visit_layoutVisitors]
      by_cases short : items.length < layout.required
      · simp only [short, ↓reduceIte]
        exact .fail place _
      · have round := Performs.mapM items.zipIdx (outcome_itemVisit layout)
          fun element _ => performs_item (fun child index here =>
            below child (layout.sizeOf_lt_of_schema? here options)) place element
        simp only [short, ↓reduceIte, List.flatMap_assoc]
        exact round.andThen fun values => .pure place _
    | _ => exact .fail place _
  | object options own extras =>
    cases doc with
    | object members =>
      have resolved : (fun key => (locate? own extras key).map Prod.snd) = resolve? own extras :=
        funext (locate?_map_snd own extras)
      have outcome (member : String × Document) :
          (memberVisit known options.strict (locate? own extras) member).outcome =
            memberAnswer known options.strict (resolve? own extras) member := by
        rw [outcome_memberVisit, resolved]
      have kept := Performs.mapM members.entries outcome
        fun member _ => performs_member (fun child key steps here =>
          below child (sizeOf_lt_of_locate? here options)) options.strict place member
      have filled := Performs.mapM own.named (outcome_absentVisit members)
        fun property named => performs_absent
          (below _ (sizeOf_lt_of_named named options extras)) members place
      -- the second round is made only if the first keeps all members, and so are its calls
      have both := kept.bind fun kept => filled.andThen fun filled =>
        .pure place (Document.object (KeyMap.overlay ⟨kept⟩ ⟨filled.filterMap id⟩))
      rw [Visit.outcome_each, funext outcome] at both
      simp only [sanitize, calls, visitObject_rules, bind_assoc, pure_bind, List.flatMap_append,
        List.flatMap_assoc]
      cases done : members.entries.mapM (memberAnswer known options.strict (resolve? own extras)) with
      | ok kept => simpa only [done, List.flatMap_assoc] using both
      | error error => simpa only [done, List.flatMap_nil] using both
    | _ => exact .fail place _
  | composite name options inner sanitizer =>
    have smaller : sizeOf inner < sizeOf (composite name options inner sanitizer) := by
      rw [composite.sizeOf_spec]
      omega
    have call := Performs.call (below inner smaller (place ++ [.inner]) doc)
    simp only [sanitize, calls, List.flatMap_singleton]
    refine call.andThen fun value => ?_
    cases sanitizer with
    | some sanitizer => exact .ofExcept place _
    | none => exact .pure place _

/-- Step by step, every node does what it does otherwise. -/
theorem liveAs (known : Vocabulary) (schema : Schema) : LiveAs known schema :=
  liveAs_of_below fun child _ => liveAs known child
termination_by sizeOf schema

/-- A run on slots in place comes to what the visit tells of. -/
theorem live_root (known : Vocabulary) (schema : Schema) (doc : Document) (slots : Slots) :
    schema.live known [] doc ⟨slots, []⟩ =
      (schema.validated known doc,
        ⟨slots.writeAll (schema.validate known doc).writes, schema.answered known doc⟩) := by
  have seen {α : Type} (entries : List (Place × α)) : seenFrom [] entries = entries :=
    List.map_id' entries
  rw [liveAs known schema [] doc, seen, seen]
  rfl

end

end Schema

end Schemata
