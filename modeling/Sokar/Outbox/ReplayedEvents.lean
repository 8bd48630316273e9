import Sokar.Library.StepRelations
import Sokar.Outbox.Enqueue
import Sokar.Shared.Inputs

/-!
# Events that are enqueued again

Stored payloads are compared with those of requests as text, and the text of a payload says in
which order its keys are listed.  So a request is answered by the event stored under its key exactly
when it is for the same event and lists the keys of its payload as the database does.
-/

namespace Sokar

open Process OrderedData

/-! ## Texts of JSON data -/

/-- Two texts of one kind of symbol are told from what follows them. -/
theorem append_inj_of_all {isOwn : Char → Bool} :
    ∀ {text other rest others : List Char}, text.all isOwn = true → other.all isOwn = true →
      (∀ char ∈ rest.head?, isOwn char = false) → (∀ char ∈ others.head?, isOwn char = false) →
        text ++ rest = other ++ others → text = other ∧ rest = others
  | [], [], _, _, _, _, _, _, same => ⟨rfl, same⟩
  | [], char :: other, rest, others, _, own, ends, _, same => by
      have isHead : char ∈ rest.head? := by
        rw [List.nil_append] at same
        simp [same]
      simp [ends char isHead] at own
  | char :: text, [], rest, others, own, _, _, ends, same => by
      have isHead : char ∈ others.head? := by
        rw [List.nil_append] at same
        simp [← same]
      simp [ends char isHead] at own
  | char :: text, other :: more, rest, others, own, ownOther, ends, endsOther, same => by
      simp only [List.cons_append, List.cons.injEq] at same
      simp only [List.all_cons, Bool.and_eq_true] at own ownOther
      obtain ⟨rfl, tails⟩ := append_inj_of_all own.2 ownOther.2 ends endsOther same.2
      exact ⟨by rw [same.1], tails⟩

theorem stringText_inj {text other : String} {rest others : List Char}
    (same : stringText text ++ rest = stringText other ++ others) :
    text = other ∧ rest = others := by
  simp only [stringText, List.cons_append, List.append_assoc, List.nil_append, List.cons.injEq,
    true_and] at same
  have read := parseString_stringText text rest
  rw [same, parseString_stringText] at read
  cases read
  exact ⟨rfl, rfl⟩

def JsonScalar.BeginsWith (char : Char) : JsonScalar → Prop
  | .null => char = 'n'
  | .bool true => char = 't'
  | .bool false => char = 'f'
  | .number _ => isNumberChar char = true
  | .string _ => char = '"'

theorem JsonScalar.text_head (value : JsonScalar) :
    ∃ char tail, value.text = char :: tail ∧ value.BeginsWith char := by
  match value with
  | .null => exact ⟨_, _, rfl, rfl⟩
  | .bool true => exact ⟨_, _, rfl, rfl⟩
  | .bool false => exact ⟨_, _, rfl, rfl⟩
  | .string text => exact ⟨_, _, rfl, rfl⟩
  | .number read =>
    obtain ⟨char, tail, written⟩ := List.exists_cons_of_ne_nil read.nonempty
    have own := read.isNumber
    rw [written, List.all_cons, Bool.and_eq_true] at own
    exact ⟨char, tail, written, own.1⟩

theorem notNumber_of_ends {rest : List Char} (ends : jsonScript.Ends rest) :
    ∀ char ∈ rest.head?, isNumberChar char = false := by
  intro char isHead
  rcases ends char isHead with comma | array | object
  · exact comma ▸ by decide
  · exact array ▸ by decide
  · exact object ▸ by decide

theorem JsonScalar.text_inj {value other : JsonScalar} {rest others : List Char}
    (ends : jsonScript.Ends rest) (endsOther : jsonScript.Ends others)
    (same : value.text ++ rest = other.text ++ others) : value = other ∧ rest = others := by
  obtain ⟨char, tail, written, head⟩ := value.text_head
  obtain ⟨char', tail', written', head'⟩ := other.text_head
  have sameHead : char = char' := by
    rw [written, written'] at same
    exact (List.cons.inj same).1
  subst sameHead
  match value, other with
  | .null, .null => exact ⟨rfl, List.append_cancel_left same⟩
  | .bool true, .bool true => exact ⟨rfl, List.append_cancel_left same⟩
  | .bool false, .bool false => exact ⟨rfl, List.append_cancel_left same⟩
  | .string text, .string otherText =>
    obtain ⟨rfl, tails⟩ := stringText_inj same
    exact ⟨rfl, tails⟩
  | .number read, .number otherRead =>
    obtain ⟨sameText, tails⟩ := append_inj_of_all read.isNumber otherRead.isNumber
      (notNumber_of_ends ends) (notNumber_of_ends endsOther) same
    have sameNumber : read = otherRead := by
      cases read
      cases otherRead
      simp only [JsonNumber.mk.injEq]
      exact String.toList_inj.1 sameText
    exact ⟨by rw [sameNumber], tails⟩
  | .null, .bool true | .null, .bool false | .null, .string _ | .bool true, .null
  | .bool true, .bool false | .bool true, .string _ | .bool false, .null | .bool false, .bool true
  | .bool false, .string _ | .string _, .null | .string _, .bool true | .string _, .bool false =>
    exact absurd (head.symm.trans head') (by decide)
  | .number _, .null | .number _, .bool true | .number _, .bool false | .number _, .string _ =>
    have isNumber : isNumberChar char = true := head
    rw [show char = _ from head'] at isNumber
    exact absurd isNumber (by decide)
  | .null, .number _ | .bool true, .number _ | .bool false, .number _ | .string _, .number _ =>
    have isNumber : isNumberChar char = true := head'
    rw [show char = _ from head] at isNumber
    exact absurd isNumber (by decide)

theorem jsonScript_readable : jsonScript.Readable where
  scalar_inj := JsonScalar.text_inj
  key_inj := stringText_inj
  scalar_head value := by
    obtain ⟨char, tail, written, head⟩ := value.text_head
    refine ⟨char, tail, written, ?_⟩
    match value with
    | .null | .bool true | .bool false | .string _ => exact head ▸ by decide
    | .number _ =>
      refine ⟨?_, ?_, ?_⟩
      all_goals
        rintro rfl
        exact absurd (show isNumberChar _ = true from head) (by decide)
  key_head key := ⟨_, _, rfl, by decide⟩
  openArray_ne := by decide
  array_brackets := by decide
  object_brackets := by decide
  comma_ne_array := by decide
  comma_ne_object := by decide

theorem payloadEquals_iff {first second : JsonData} : payloadEquals first second ↔ first = second :=
  jsonScript_readable.text_injective.eq_iff

namespace OutboxEventInput

variable {input : OutboxEventInput} {facts : EventFacts}

/-- What a request is normalised to. -/
structure Normalized (input : OutboxEventInput) (facts : EventFacts) : Prop where
  piiFree : input.payload.keys.find? isForbidden = none
  restaurantId : facts.restaurantId = input.restaurantId
  topic : requireColumn input.topic "topic" 64 = .ok facts.topic
  aggregateType : requireColumn input.aggregateType "aggregateType" 64 = .ok facts.aggregateType
  aggregateId : requireColumn input.aggregateId "aggregateId" 191 = .ok facts.aggregateId
  eventType : requireColumn input.eventType "eventType" 128 = .ok facts.eventType
  idempotencyKey :
    requireColumn input.idempotencyKey "idempotencyKey" 255 = .ok facts.idempotencyKey
  schemaVersion : facts.schemaVersion = input.schemaVersion.getD 1
  payload : facts.payload = input.payload

theorem normalizeInput_ok (ok : input.normalizeInput = .ok facts) : input.Normalized facts := by
  obtain ⟨_, checked, ok⟩ := ok_of_bind ok
  obtain ⟨topic, topicOk, ok⟩ := ok_of_bind ok
  obtain ⟨aggregateType, aggregateTypeOk, ok⟩ := ok_of_bind ok
  obtain ⟨aggregateId, aggregateIdOk, ok⟩ := ok_of_bind ok
  obtain ⟨eventType, eventTypeOk, ok⟩ := ok_of_bind ok
  obtain ⟨idempotencyKey, idempotencyKeyOk, ok⟩ := ok_of_bind ok
  cases ok
  have piiFree : input.payload.keys.find? isForbidden = none := by
    rw [assertPiiFreePayload] at checked
    split at checked
    next => cases checked
    next absent => exact absent
  exact ⟨piiFree, rfl, topicOk, aggregateTypeOk, aggregateIdOk, eventTypeOk, idempotencyKeyOk, rfl,
    rfl⟩

theorem Normalized.ok (normalized : input.Normalized facts) : input.normalizeInput = .ok facts := by
  rw [normalizeInput, assertPiiFreePayload, normalized.piiFree, normalized.topic,
    normalized.aggregateType, normalized.aggregateId, normalized.eventType,
    normalized.idempotencyKey]
  cases facts
  simp only [← normalized.restaurantId, ← normalized.schemaVersion, ← normalized.payload]
  rfl

/-- Columns that are trimmed to one text are one. -/
theorem requireColumn_congr {value other : String} (same : trim value = trim other)
    (field : String) (maxLength : Nat) :
    requireColumn value field maxLength = requireColumn other field maxLength := by
  rw [requireColumn, requireColumn, requireText, requireText, same]

theorem requireColumn_ok {value field column : String} {maxLength : Nat}
    (ok : requireColumn value field maxLength = .ok column) : column = trim value := by
  rw [requireColumn, requireText] at ok
  split at ok
  next => cases ok
  next normalized required =>
    cases ok
    split at required
    · cases required
    · cases required
      rfl

structure Repeats (first second : OutboxEventInput) : Prop where
  restaurantId : first.restaurantId = second.restaurantId
  topic : trim first.topic = trim second.topic
  aggregateType : trim first.aggregateType = trim second.aggregateType
  aggregateId : trim first.aggregateId = trim second.aggregateId
  eventType : trim first.eventType = trim second.eventType
  schemaVersion : first.schemaVersion.getD 1 = second.schemaVersion.getD 1
  idempotencyKey : trim first.idempotencyKey = trim second.idempotencyKey
  payload : Same first.payload second.payload

theorem piiFree_of_same {payload other : JsonData} (same : Same payload other)
    (piiFree : payload.keys.find? isForbidden = none) : other.keys.find? isForbidden = none := by
  rw [List.find?_eq_none] at piiFree ⊢
  exact fun key isKey => piiFree key (same.keys_perm.mem_iff.2 isKey)

theorem Normalized.of_repeats {first second : OutboxEventInput}
    (normalized : first.Normalized facts) (again : first.Repeats second) :
    second.Normalized { facts with payload := second.payload } where
  piiFree := piiFree_of_same again.payload normalized.piiFree
  restaurantId := normalized.restaurantId.trans again.restaurantId
  topic := requireColumn_congr again.topic _ _ ▸ normalized.topic
  aggregateType := requireColumn_congr again.aggregateType _ _ ▸ normalized.aggregateType
  aggregateId := requireColumn_congr again.aggregateId _ _ ▸ normalized.aggregateId
  eventType := requireColumn_congr again.eventType _ _ ▸ normalized.eventType
  idempotencyKey := requireColumn_congr again.idempotencyKey _ _ ▸ normalized.idempotencyKey
  schemaVersion := normalized.schemaVersion.trans again.schemaVersion
  payload := rfl

/-- Why a request with another payload than that of the stored event is refused. -/
def mismatch (input : OutboxEventInput) : EnqueueError :=
  match input.normalizeInput with
  | .error error => error
  | .ok normalized => .keyConflict normalized.idempotencyKey

structure Replays (first second : OutboxEventInput) (stored : OutboxRow)
    (result : Except EnqueueError Enqueued) : Prop where
  again : first.Repeats second → ∃ event, result = .ok { event, created := false } ∧
    event.event.id = stored.event.id ∧ event.facts = stored.facts
  other : ¬Same first.payload second.payload → result = .error second.mismatch

end OutboxEventInput

/-- The row found under a key is found under it later, about the same event. -/
def KeepsRows (before after : OutboxTable) : Prop :=
  ∀ key row, before.row? key = some row →
    ∃ kept, after.row? key = some kept ∧ kept.event.id = row.event.id ∧ kept.facts = row.facts

namespace KeepsRows

theorem refl (table : OutboxTable) : KeepsRows table table :=
  fun _ row found => ⟨row, found, rfl, rfl⟩

theorem trans {first second third : OutboxTable} (keeps : KeepsRows first second)
    (more : KeepsRows second third) : KeepsRows first third := by
  intro key row found
  obtain ⟨kept, foundKept, sameId, sameFacts⟩ := keeps key row found
  obtain ⟨last, foundLast, lastId, lastFacts⟩ := more key kept foundKept
  exact ⟨last, foundLast, lastId.trans sameId, lastFacts.trans sameFacts⟩

theorem append (table rows : OutboxTable) : KeepsRows table (table ++ rows) := by
  intro key row found
  have first : OutboxTable.row? (table ++ rows) key = some row := by
    rw [OutboxTable.row?, List.find?_append]
    exact (congrArg (Option.or · _) found).trans rfl
  exact ⟨row, first, rfl, rfl⟩

theorem of_dispatched {before after : OutboxTable} (dispatched : Dispatched before after) :
    KeepsRows before after := by
  obtain ⟨change, keepsId, rfl⟩ := dispatched
  intro key row found
  refine ⟨{ row with event := change row.event }, ?_, keepsId row.event, rfl⟩
  rw [OutboxTable.row?, List.find?_map]
  exact congrArg (Option.map _) found

end KeepsRows

variable (input : OutboxEventInput)

namespace EnqueueCall

section

variable [Jsonb] {call : EnqueueCall} {table : OutboxTable} {facts : EventFacts}

theorem keeps_create (table : OutboxTable) : KeepsRows table
      (if call.isRefused facts table then table else table ++ [call.row facts]) := by
  split
  · exact .refl table
  · exact .append table _

/-- The row of an event that was created is found for good. -/
def IsStored (result : Except EnqueueError Enqueued) (table : OutboxTable) : Prop :=
  ∀ event, result = .ok { event, created := true } → ∃ facts, input.Normalized facts ∧
    event.facts = { facts with payload := Jsonb.readBack facts.payload } ∧
    ∃ kept, table.row? facts.idempotencyKey = some kept ∧ kept.event.id = event.event.id ∧
      kept.facts = event.facts

theorem isStored_answer {input : OutboxEventInput} (existing : OutboxRow) :
    IsStored input (answer facts existing) table := by
  intro event created
  rw [answer] at created
  split at created
  · cases created
  · cases created

theorem steps_recover :
    (recover facts).StepsFrom (fun _ => True) KeepsRows KeepsRows (IsStored input) table := by
  refine Prog.StepsFrom.read (fun s _ => .refl s) fun s _ _ => ?_
  cases s.row? facts.idempotencyKey with
  | some raced => exact .pure fun _ _ _ => isStored_answer raced
  | none =>
    refine .pure fun _ _ _ event created => ?_
    cases created

theorem steps_insert (normalized : call.input.Normalized facts) :
    (call.insert facts).StepsFrom (fun _ => True) KeepsRows KeepsRows (IsStored call.input)
      table := by
  refine Prog.StepsFrom.update (fun s _ _ => keeps_create s) fun s _ _ _ => ?_
  cases refused : call.isRefused facts s with
  | true => exact steps_recover call.input
  | false =>
    -- No row was found under the key before, so the new one is found.
    have absent : s.row? facts.idempotencyKey = none := by
      rw [isRefused, Bool.or_eq_false_iff] at refused
      exact Option.not_isSome_iff_eq_none.1 (by rw [refused.1]; decide)
    have found : (s ++ [call.row facts]).row? facts.idempotencyKey = some (call.row facts) := by
      rw [OutboxTable.row?, List.find?_append]
      refine (congrArg (Option.or · _) absent).trans ?_
      simp [row]
    refine .pure fun s' later _ event created => ?_
    cases created
    exact ⟨facts, normalized, rfl, later _ _ found⟩

theorem steps_enqueue (call : EnqueueCall) (table : OutboxTable) :
    call.enqueue.StepsFrom (fun _ => True) KeepsRows KeepsRows (IsStored call.input) table := by
  rw [enqueue]
  cases normal : call.input.normalizeInput with
  | error error =>
    refine .pure fun _ _ _ event created => ?_
    cases created
  | ok facts =>
    refine Prog.StepsFrom.read (fun s _ => .refl s) fun s _ _ => ?_
    cases s.row? facts.idempotencyKey with
    | some existing => exact .pure fun _ _ _ => isStored_answer existing
    | none => exact steps_insert (OutboxEventInput.normalizeInput_ok normal)

/-- The answer of a call whose key the event is stored under. -/
def Answers (stored : OutboxRow) (result : Except EnqueueError Enqueued) : Prop :=
  (∃ error, input.normalizeInput = .error error ∧ result = .error error) ∨
    ∃ facts kept, input.normalizeInput = .ok facts ∧ kept.event.id = stored.event.id ∧
      kept.facts = stored.facts ∧ result = answer facts kept

theorem steps_enqueue_stored {stored : OutboxRow}
    (found : table.row? (trim call.input.idempotencyKey) = some stored) :
    call.enqueue.StepsFrom (fun _ => True) KeepsRows KeepsRows
      (fun result _ => Answers call.input stored result) table := by
  rw [enqueue]
  cases normal : call.input.normalizeInput with
  | error error => exact .pure fun _ _ _ => .inl ⟨error, normal, rfl⟩
  | ok facts =>
    have key := OutboxEventInput.requireColumn_ok
      (OutboxEventInput.normalizeInput_ok normal).idempotencyKey
    refine Prog.StepsFrom.read (fun s _ => .refl s) fun s later _ => ?_
    obtain ⟨kept, foundKept, sameId, sameFacts⟩ := later _ _ found
    rw [← key] at foundKept
    rw [foundKept]
    exact .pure fun _ _ _ => .inr ⟨facts, kept, normal, sameId, sameFacts, rfl⟩

omit [Jsonb] in
theorem Answers.of_same {input : OutboxEventInput} {stored kept : OutboxRow}
    {result : Except EnqueueError Enqueued} (answers : Answers input kept result)
    (sameId : kept.event.id = stored.event.id) (sameFacts : kept.facts = stored.facts) :
    Answers input stored result := by
  rcases answers with failed | ⟨facts, found, normal, foundId, foundFacts, answered⟩
  · exact .inl failed
  · exact .inr ⟨facts, found, normal, foundId.trans sameId, foundFacts.trans sameFacts, answered⟩

theorem Answers.answersSame_iff {first second : OutboxEventInput} {stored : OutboxRow}
    {result : Except EnqueueError Enqueued} (normalized : first.Normalized facts)
    (isStored : stored.facts = { facts with payload := Jsonb.readBack facts.payload })
    (answers : Answers second stored result) :
    first.Replays second stored result ↔
      (first.Repeats second → Jsonb.readBack first.payload = second.payload) := by
  rw [normalized.payload] at isStored
  constructor
  · intro replays again
    obtain ⟨event, returned, -, -⟩ := replays.again again
    rcases answers with ⟨error, -, failed⟩ | ⟨facts', kept, normal, -, sameFacts, answered⟩
    · exact nomatch failed.symm.trans returned
    · rw [returned, answer] at answered
      split at answered
      next same =>
        have samePayload := payloadEquals_iff.1 same.2.2.2.2.2.2
        rw [sameFacts, isStored, (OutboxEventInput.normalizeInput_ok normal).payload] at samePayload
        exact samePayload
      next => cases answered
  · intro listed
    constructor
    · intro again
      have normal := (normalized.of_repeats again).ok
      rcases answers with ⟨error, failed, -⟩ | ⟨facts', kept, normal', sameId, sameFacts, answered⟩
      · exact nomatch failed.symm.trans normal
      · cases normal.symm.trans normal'
        refine ⟨kept, ?_, sameId, sameFacts⟩
        rw [answered, answer, if_pos]
        rw [sameFacts, isStored]
        exact ⟨rfl, rfl, rfl, rfl, rfl, rfl, payloadEquals_iff.2 (listed again)⟩
    · intro other
      rcases answers with ⟨error, failed, returned⟩ | ⟨facts', kept, normal, -, sameFacts, answered⟩
      · rw [returned, OutboxEventInput.mismatch, failed]
      · have payload := (OutboxEventInput.normalizeInput_ok normal).payload
        have differs : ¬kept.facts.SameEvent facts' := by
          intro same
          have samePayload := payloadEquals_iff.1 same.2.2.2.2.2.2
          rw [sameFacts, isStored, payload] at samePayload
          exact other (samePayload ▸ Jsonb.same_readBack first.payload)
        rw [answered, answer, if_neg differs, OutboxEventInput.mismatch, normal]

theorem isSome_run_enqueue (call : EnqueueCall) (table : OutboxTable) :
    (call.enqueue.run table).isSome := by
  rw [enqueue]
  cases call.input.normalizeInput with
  | error error => rfl
  | ok facts =>
    rw [Prog.run_bind, Prog.run_read, Option.bind_some]
    cases table.row? facts.idempotencyKey with
    | some existing => rfl
    | none =>
      rw [insert, Prog.run_bind, create, Prog.run_update, Option.bind_some]
      cases call.isRefused facts table with
      | false => rfl
      | true =>
        rw [if_pos rfl, if_pos rfl]
        rw [recover, Prog.run_bind, Prog.run_read, Option.bind_some]
        cases table.row? facts.idempotencyKey <;> rfl

end

end EnqueueCall

section

variable [Jsonb] {calls : EnqueueCallId → EnqueueCall} {first second : EnqueueCallId}
variable {table : OutboxTable} {earlier later : List (Move EnqueueCallId OutboxTable)}
variable {stored after : Config EnqueueCallId OutboxTable (Except EnqueueError Enqueued)}

theorem enqueue_known (run : (enqueueSystem calls).Run (.initial table) earlier stored) :
    System.Run.Known (enqueueSystem calls) (fun _ => True) KeepsRows (fun _ => KeepsRows)
      (fun call => EnqueueCall.IsStored (calls call).input) table earlier stored := by
  have isFair : ∀ move ∈ earlier, (fun _ => True) move := fun _ _ => trivial
  refine run.known_initial KeepsRows.refl KeepsRows.trans ?_ ?_ ?_ ?_ trivial isFair
  · exact fun call s _ _ => EnqueueCall.steps_enqueue (calls call) s
  · exact fun _ _ _ keeps => ⟨trivial, keeps⟩
  · exact fun _ s _ => ⟨trivial, .refl s⟩
  · exact fun _ _ _ dispatched => ⟨trivial, .of_dispatched dispatched⟩

theorem enqueue_answers {event : OutboxRow} {result : Except EnqueueError Enqueued}
    (before : (enqueueSystem calls).Run (.initial table) earlier stored)
    (found : ∃ kept, stored.shared.row? (trim (calls second).input.idempotencyKey) = some kept ∧
      kept.event.id = event.event.id ∧ kept.facts = event.facts)
    (idle : stored.procs second = none)
    (afterwards : (enqueueSystem calls).Run stored later after)
    (answered : after.result? second = some result) :
    EnqueueCall.Answers (calls second).input event result := by
  have others : ∀ (call : EnqueueCallId) (prog : Prog OutboxTable (Except EnqueueError Enqueued))
      (table : OutboxTable), call ≠ second →
      prog.StepsFrom (fun _ => True) KeepsRows KeepsRows
        (EnqueueCall.IsStored (calls call).input) table →
        prog.StepsFrom (fun _ => True) KeepsRows KeepsRows (fun result _ =>
          call = second → EnqueueCall.Answers (calls second).input event result) table := by
    intro call prog table other steps
    exact steps.weaken (fun _ => id) (fun _ _ => id) fun _ _ _ same => absurd same other
  have known : System.Run.Known (enqueueSystem calls) (fun _ => True) KeepsRows (fun _ => KeepsRows)
      (fun call result _ =>
        call = second → EnqueueCall.Answers (calls second).input event result)
      stored.shared later after := by
    have isFair : ∀ move ∈ later, (fun _ => True) move := fun _ _ => trivial
    refine afterwards.known KeepsRows.refl KeepsRows.trans ?_ ?_ ?_ ?_ trivial ?_ isFair
    · intro call s isLater _
      by_cases same : call = second
      · subst same
        obtain ⟨kept, isKept, sameId, sameFacts⟩ := found
        obtain ⟨last, isLast, lastId, lastFacts⟩ := isLater _ _ isKept
        exact (EnqueueCall.steps_enqueue_stored isLast).weaken (fun _ => id) (fun _ _ => id)
          fun _ _ answers _ => answers.of_same (lastId.trans sameId) (lastFacts.trans sameFacts)
      · exact others call _ s same (EnqueueCall.steps_enqueue (calls call) s)
    · exact fun _ _ _ keeps => ⟨trivial, keeps⟩
    · exact fun _ s _ => ⟨trivial, .refl s⟩
    · exact fun _ _ _ dispatched => ⟨trivial, .of_dispatched dispatched⟩
    · intro call prog running
      have other : call ≠ second := by
        rintro rfl
        exact nomatch idle.symm.trans running
      exact others call prog _ other ((enqueue_known before).progs call prog running)
  exact known.progs second _ (Config.procs_of_result? answered) _ (.refl _) trivial rfl

/-- Once an event is stored, calls under its key are answered with it when they repeat it, and
refused when their payload is another, exactly when a repeated payload is listed as the
database lists it.  Whatever runs beside them, such calls return. -/
theorem enqueue_again_iff {event : OutboxRow} {result : Except EnqueueError Enqueued}
    (before : (enqueueSystem calls).Run (.initial table) earlier stored)
    (created : stored.result? first = some (.ok { event, created := true }))
    (idle : stored.procs second = none)
    (afterwards : (enqueueSystem calls).Run stored later after)
    (answered : after.result? second = some result)
    (sameKey : trim (calls first).input.idempotencyKey = trim (calls second).input.idempotencyKey) :
    ((calls second).enqueue.run stored.shared).isSome ∧
      ((calls first).input.Replays (calls second).input event result ↔
        ((calls first).input.Repeats (calls second).input →
          Jsonb.readBack (calls first).input.payload = (calls second).input.payload)) := by
  have isStored := (enqueue_known before).progs first _ (Config.procs_of_result? created)
    stored.shared (.refl _) trivial event rfl
  obtain ⟨facts, normalized, isRow, kept, found, sameId, sameFacts⟩ := isStored
  rw [OutboxEventInput.requireColumn_ok normalized.idempotencyKey, sameKey] at found
  have answers := enqueue_answers before ⟨kept, found, sameId, sameFacts⟩ idle afterwards answered
  exact ⟨EnqueueCall.isSome_run_enqueue _ _, answers.answersSame_iff normalized isRow⟩

end

variable (members : List (String × JsonData))

section

attribute [local instance] Jsonb.sorted

def movedReservation : OutboxEventInput :=
  ⟨some "r", "usage", "reservation", "r-1", "reservation.moved", none, .object members,
    "moved:r-1", none⟩

/-- The payload as the service writes it; the database puts the shorter key first. -/
def movedTo : List (String × JsonData) :=
  [("reservationId", .scalar (.string "r-1")), ("table", .scalar (.string "t-4"))]

def moveCall (call : EnqueueCallId) : EnqueueCall where
  input := movedReservation members
  eventId := if call = 0 then "e" else "f"
  now := 0
  createdAt := 0

/-- The very request that created an event is refused when it is made again. -/
theorem repeated_event_refused : ∃ event table,
      (moveCall movedTo 0).enqueue.run [] = some (.ok { event, created := true }, table) ∧
        (moveCall movedTo 1).enqueue.run table = some (.error (.keyConflict "moved:r-1"), table) ∧
          (moveCall movedTo 0).input = (moveCall movedTo 1).input :=
  ⟨_, _, rfl, rfl, rfl⟩

/-- With one key there is one order. -/
theorem enqueue_again_iff_one :
    ∃ stored result, (moveCall [("reservationId", .scalar (.string "r-1"))] 0).input.Replays
      (moveCall [("reservationId", .scalar (.string "r-1"))] 1).input stored result :=
  ⟨_, _, (@enqueue_again_iff Jsonb.sorted
    (moveCall [("reservationId", .scalar (.string "r-1"))]) 0 1 [] _ _ _ _ _ _
    (System.run_schedule (rfl : System.schedule _ [0, 0, 0] _ = some _)) rfl rfl
    (System.run_schedule (rfl : System.schedule _ [1, 1] _ = some _)) rfl rfl).2.2 fun _ => rfl⟩

end

end Sokar
