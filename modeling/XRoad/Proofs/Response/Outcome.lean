import XRoad.Proofs.Response.Classification

/-!
# Outcomes of reading a response

A response that is read is a SOAP fault, an error of the service, content, or none of these, and
which of them it is can be told from the message alone. Reading fails only in a reader of content.
Main statement: `ResponseReader.read_classified`.
-/

namespace XRoad

open Xml (Element only?)

/-- The element of an answer that says that the service reports an error. -/
def Fault.IsAnswerPart (e : Element) : Prop :=
  Text.sameLetters e.tag.name "faultcode" ∨ Text.sameLetters e.tag.name "faultstring"

instance (e : Element) : Decidable (Fault.IsAnswerPart e) :=
  inferInstanceAs (Decidable (_ ∨ _))

theorem Fault.ofAnswer?_eq_none_iff {e : Element} :
    ofAnswer? e = none ↔ ∀ c ∈ e.childElements, ¬ IsAnswerPart c := by
  have absent (name : String) : textAnyCase? e name = none ↔
      ∀ c ∈ e.childElements, ¬ Text.sameLetters c.tag.name name := by
    rw [textAnyCase?, Option.map_eq_none_iff, childAnyCase?, List.find?_eq_none]
  have parts : (∀ c ∈ e.childElements, ¬ IsAnswerPart c) ↔
      textAnyCase? e "faultcode" = none ∧ textAnyCase? e "faultstring" = none := by
    rw [absent, absent, ← forall₂_and]
    exact forall₂_congr fun c _ => not_or
  rw [parts, ofAnswer?]
  split
  · next code text => exact ⟨fun _ => ⟨code, text⟩, fun _ => rfl⟩
  · next code text notBoth =>
    refine iff_of_false (Option.some_ne_none _) ?_
    rintro ⟨noCode, noText⟩
    exact notBoth noCode noText

namespace ResponseReader

variable {α β : Type}

/-- The message answers the service of its header with this element, and no other element of the
body has its name in the expected namespace. -/
def IsAnswer (expected : Option String) (m : Soap.Message) (rpc : Element) : Prop :=
  ∃ s, (headerOf m).service = some s ∧
    m.body.find (expectedUri? expected) s.responseName = [rpc]

/-- The element that holds the content of the answer. -/
def IsContent (expected : Option String) (wrapped : Bool) (m : Soap.Message) (e : Element) : Prop :=
  ∃ rpc, IsAnswer expected m rpc ∧ Request.contentOf? wrapped "response" rpc = some e

/-- What kind of response a message is read as. -/
structure Classifies (reader : ResponseReader α β) (expected : Option String) (wrapped : Bool)
    (m : Soap.Message) (r : Response α β) : Prop where
  /-- An error leaves no room for content. -/
  exclusive : r.fault = none ∨ r.responseData = none
  standard : ∀ f, r.fault = some f → f.kind = .standard →
    (¬ ∃ rpc, IsAnswer expected m rpc) ∧ r.requestData = none ∧ r.responseData = none ∧
      ∀ p, r.producer = some p → p.bodyPrefix = none ∧ p.bodyUri = none
  nonTechnical : (∃ f, r.fault = some f ∧ f.kind = .nonTechnical) ↔
    ∃ e, IsContent expected wrapped m e ∧ ∃ c ∈ e.childElements, Fault.IsAnswerPart c
  /-- The reader of content has no part in an error of the service. -/
  unread : ∀ f, r.fault = some f → f.kind = .nonTechnical → ∀ response,
    ({ reader with response } : ResponseReader α β).read expected wrapped m = .ok r
  data : r.responseData.isSome ↔
    ∃ e, IsContent expected wrapped m e ∧ e.children ≠ [] ∧
      ∀ c ∈ e.childElements, ¬ Fault.IsAnswerPart c

/-- A reader of content has refused an element that is not empty. -/
def Refuses (reader : ResponseReader α β) (expected : Option String) (wrapped : Bool)
    (m : Soap.Message) (cause : ReadError) : Prop :=
  ∃ e reason, cause = .payload reason ∧ e.children ≠ [] ∧
    (IsContent expected wrapped m e ∧ reader.response e m = .error reason ∨
      wrapped ∧ (∃ rpc, IsAnswer expected m rpc ∧ rpc.child? "request" = some e) ∧
        ∃ hook, reader.request = some hook ∧ hook e m = .error reason)

variable {reader : ResponseReader α β} {expected : Option String} {wrapped : Bool}
  {m : Soap.Message} {rpc e : Element}

theorem isAnswer_iff : IsAnswer expected m rpc ↔
    answer? (headerOf m).service expected m = some rpc := by
  rw [answer?, Option.bind_eq_some_iff]
  simp only [Xml.only?_eq_some_iff, IsAnswer]

theorem isContent_iff (answered : answer? (headerOf m).service expected m = some rpc) :
    IsContent expected wrapped m e ↔ Request.contentOf? wrapped "response" rpc = some e := by
  unfold IsContent
  simp only [isAnswer_iff, answered, Option.some.injEq, exists_eq_left']

/-! ### Reading content -/

section
variable {γ : Type} {hook : ContentReader γ} {cause : ReadError}

theorem readContent_error (ordinary : reader.metaService = false)
    (fails : reader.readContent hook e m = .error cause) :
    ∃ reason, cause = .payload reason ∧ e.children ≠ [] ∧ hook e m = .error reason := by
  rw [readContent_eq ordinary] at fails
  rcases hook.readChildren_cases e m with
    ⟨-, result⟩ | ⟨-, a, -, result⟩ | ⟨present, reason, refused, result⟩
  · rw [result] at fails
    cases fails
  · rw [result] at fails
    cases fails
  · rw [result] at fails
    exact ⟨reason, (Except.error.inj fails).symm, present, refused⟩

theorem readContent_ok (ordinary : reader.metaService = false) {data : Option γ}
    (reads : reader.readContent hook e m = .ok data) : data.isSome ↔ e.children ≠ [] := by
  rw [readContent_eq ordinary] at reads
  rcases hook.readChildren_cases e m with
    ⟨empty, result⟩ | ⟨present, a, -, result⟩ | ⟨-, reason, -, result⟩
  · rw [result] at reads
    rw [← Except.ok.inj reads]
    exact iff_of_false Bool.false_ne_true (not_not_intro empty)
  · rw [result] at reads
    rw [← Except.ok.inj reads]
    exact iff_of_true rfl present
  · rw [result] at reads
    cases reads

theorem readRequest_error (ordinary : reader.metaService = false)
    (fails : reader.readRequest wrapped rpc m = .error cause) :
    ∃ e reason, cause = .payload reason ∧ e.children ≠ [] ∧ wrapped ∧
      rpc.child? "request" = some e ∧ ∃ hook, reader.request = some hook ∧ hook e m = .error reason := by
  unfold readRequest at fails
  split at fails
  · next hook e wanted found =>
    obtain ⟨reason, payload, present, refused⟩ := readContent_error ordinary fails
    exact ⟨e, reason, payload, present, rfl, found, hook, wanted, refused⟩
  · cases fails

end

/-! ### Reading an answer -/

def outcomeOf (reader : ResponseReader α β) (wrapped : Bool) (rpc : Element) (m : Soap.Message) :
    Except ReadError (Outcome β) :=
  match Request.contentOf? wrapped "response" rpc with
  | none => .ok (.content none)
  | some e => reader.readOutcome e m

def ofAnswer (wrapped : Bool) (m : Soap.Message) (rpc : Element) (requestData : Option α)
    (outcome : Outcome β) : Response α β :=
  let base : Response α β := .ofHeader (headerOf m)
  { base with
    wrapped
    received := some m
    producer := base.producer.map (·.observed rpc.tag.toQName)
    requestData
    responseData := outcome.data?
    fault := outcome.fault? }

theorem read_of_answered (answered : answer? (headerOf m).service expected m = some rpc) :
    reader.read expected wrapped m =
      (do
        let requestData ← reader.readRequest wrapped rpc m
        let outcome ← reader.outcomeOf wrapped rpc m
        .ok (ofAnswer wrapped m rpc requestData outcome)) := by
  unfold read outcomeOf
  simp only [answered]
  refine congrArg (reader.readRequest wrapped rpc m >>= ·) (funext fun requestData => ?_)
  cases Request.contentOf? wrapped "response" rpc <;> rfl

theorem readOutcome_fault_of_part (ordinary : reader.metaService = false)
    (part : ∃ c ∈ e.childElements, Fault.IsAnswerPart c) (m : Soap.Message) :
    ∃ f, f.kind = .nonTechnical ∧ ∀ response,
      ({ reader with response } : ResponseReader α β).readOutcome e m = .ok (.fault f) := by
  cases found : Fault.ofAnswer? e with
  | none =>
    obtain ⟨c, here, isPart⟩ := part
    exact absurd isPart (Fault.ofAnswer?_eq_none_iff.1 found c here)
  | some f =>
    refine ⟨f, Fault.ofAnswer?_kind found, fun response => ?_⟩
    unfold readOutcome
    rw [ordinary, if_neg Bool.false_ne_true, found]

theorem readOutcome_of_no_part (ordinary : reader.metaService = false)
    (noPart : ∀ c ∈ e.childElements, ¬ Fault.IsAnswerPart c) (m : Soap.Message) :
    reader.readOutcome e m = (reader.readContent reader.response e m).map .content := by
  unfold readOutcome
  rw [ordinary, if_neg Bool.false_ne_true, Fault.ofAnswer?_eq_none_iff.2 noPart]

/-- A meta service reads every element, and takes none for an error. -/
theorem readOutcome_of_metaService (special : reader.metaService) (e : Element) (m : Soap.Message) :
    reader.readOutcome e m = (reader.response.read e m).map fun data => .content (some data) := by
  unfold readOutcome readContent
  rw [special]
  cases reader.response.read e m <;> rfl

/-- The outcome of an answer is an error if its content has the parts of one, and else content if
there is any. -/
theorem outcomeOf_ok (ordinary : reader.metaService = false) {outcome : Outcome β}
    (reads : reader.outcomeOf wrapped rpc m = .ok outcome) :
    let held := Request.contentOf? wrapped "response" rpc
    (outcome.fault?.isSome ↔ ∃ e, held = some e ∧ ∃ c ∈ e.childElements, Fault.IsAnswerPart c) ∧
      (outcome.data?.isSome ↔ ∃ e, held = some e ∧ e.children ≠ [] ∧
        ∀ c ∈ e.childElements, ¬ Fault.IsAnswerPart c) ∧
      ∀ f, outcome.fault? = some f → f.kind = .nonTechnical ∧ ∀ response,
        ({ reader with response } : ResponseReader α β).outcomeOf wrapped rpc m = .ok outcome := by
  intro held
  unfold outcomeOf at reads ⊢
  cases located : Request.contentOf? wrapped "response" rpc with
  | none =>
    simp only [located] at reads
    obtain rfl := Except.ok.inj reads
    simp [held, located, Outcome.fault?, Outcome.data?]
  | some e =>
    simp only [located] at reads
    simp only [held, located, Option.some.injEq, exists_eq_left']
    by_cases part : ∃ c ∈ e.childElements, Fault.IsAnswerPart c
    · obtain ⟨f, kind, reports⟩ := readOutcome_fault_of_part ordinary part m
      obtain rfl := Except.ok.inj ((reports reader.response).symm.trans reads)
      refine ⟨iff_of_true rfl part, iff_of_false nofun ?_, fun g carried => ?_⟩
      · rintro ⟨-, noPart⟩
        obtain ⟨c, here, isPart⟩ := part
        exact noPart c here isPart
      · obtain rfl : f = g := Option.some.inj carried
        exact ⟨kind, reports⟩
    · have noPart : ∀ c ∈ e.childElements, ¬ Fault.IsAnswerPart c := fun c here isPart =>
        part ⟨c, here, isPart⟩
      rw [readOutcome_of_no_part ordinary noPart] at reads
      cases content : reader.readContent reader.response e m with
      | error cause =>
        rw [content] at reads
        cases reads
      | ok data =>
        rw [content] at reads
        obtain rfl := Except.ok.inj reads
        have filled : data.isSome ↔ e.children ≠ [] := readContent_ok ordinary content
        refine ⟨iff_of_false nofun part, ?_, nofun⟩
        exact filled.trans ⟨fun present => ⟨present, noPart⟩, And.left⟩

theorem outcomeOf_error (ordinary : reader.metaService = false) {cause : ReadError}
    (fails : reader.outcomeOf wrapped rpc m = .error cause) :
    ∃ e reason, cause = .payload reason ∧ e.children ≠ [] ∧
      Request.contentOf? wrapped "response" rpc = some e ∧ reader.response e m = .error reason := by
  unfold outcomeOf at fails
  split at fails
  · cases fails
  · next e located =>
    by_cases part : ∃ c ∈ e.childElements, Fault.IsAnswerPart c
    · obtain ⟨f, -, reports⟩ := readOutcome_fault_of_part ordinary part m
      cases (reports reader.response).symm.trans fails
    · have noPart : ∀ c ∈ e.childElements, ¬ Fault.IsAnswerPart c := fun c here isPart =>
        part ⟨c, here, isPart⟩
      rw [readOutcome_of_no_part ordinary noPart] at fails
      cases content : reader.readContent reader.response e m with
      | ok data =>
        rw [content] at fails
        cases fails
      | error reported =>
        rw [content] at fails
        obtain rfl : reported = cause := Except.error.inj fails
        obtain ⟨reason, payload, present, refused⟩ := readContent_error ordinary content
        exact ⟨e, reason, payload, present, located, refused⟩

/-! ### Reading a response -/

theorem classifies_of_no_answer
    (missing : answer? (headerOf m).service expected m = none) {r : Response α β}
    (reads : reader.read expected wrapped m = .ok r) : reader.Classifies expected wrapped m r := by
  have noAnswer : ¬ ∃ rpc, IsAnswer expected m rpc := by
    simp [isAnswer_iff, missing]
  have noContent : ¬ ∃ e, IsContent expected wrapped m e := fun ⟨_, rpc, answered, _⟩ =>
    noAnswer ⟨rpc, answered⟩
  rw [read_of_no_answer missing] at reads
  obtain rfl := Except.ok.inj reads
  have technical (f : Fault) (found : Fault.ofBody? reader.detail m.body = some f) :
      f.kind ≠ .nonTechnical := by
    obtain ⟨e, -, rfl⟩ := Option.map_eq_some_iff.1 found
    exact nofun
  constructor
  · exact .inr rfl
  · intro f _ _
    refine ⟨noAnswer, rfl, rfl, fun p producer => ?_⟩
    obtain ⟨s, -, rfl⟩ := Option.map_eq_some_iff.1 producer
    exact ⟨rfl, rfl⟩
  · refine iff_of_false ?_ fun ⟨e, content, _⟩ => noContent ⟨e, content⟩
    exact fun ⟨f, found, business⟩ => technical f found business
  · exact fun f found business => (technical f found business).elim
  · exact iff_of_false nofun fun ⟨e, content, _⟩ => noContent ⟨e, content⟩

theorem classifies_of_answer (ordinary : reader.metaService = false)
    (answered : answer? (headerOf m).service expected m = some rpc) {r : Response α β}
    (reads : reader.read expected wrapped m = .ok r) : reader.Classifies expected wrapped m r := by
  obtain ⟨requestData, repeated, rest⟩ := bind_ok ((read_of_answered answered).symm.trans reads)
  obtain ⟨outcome, found, rest⟩ := bind_ok rest
  obtain rfl := Except.ok.inj rest
  obtain ⟨fault, data, business⟩ := outcomeOf_ok ordinary found
  simp only [← isContent_iff answered] at fault data
  constructor
  · cases outcome with
    | fault f => exact .inr rfl
    | content data => exact .inl rfl
  · intro f carried standard
    rw [(business f carried).1] at standard
    cases standard
  · rw [← fault, Option.isSome_iff_exists]
    exact exists_congr fun f => and_iff_left_of_imp fun carried => (business f carried).1
  · intro f carried _ response
    rw [read_of_answered answered, (business f carried).2 response]
    change (reader.readRequest wrapped rpc m >>= fun requestData => _) = _
    rw [repeated]
    rfl
  · exact data

theorem refuses_of_error (ordinary : reader.metaService = false) {cause : ReadError}
    (fails : reader.read expected wrapped m = .error cause) :
    reader.Refuses expected wrapped m cause := by
  cases answered : answer? (headerOf m).service expected m with
  | none =>
    rw [read_of_no_answer answered] at fails
    cases fails
  | some rpc =>
    rw [read_of_answered answered] at fails
    cases repeated : reader.readRequest wrapped rpc m with
    | error reported =>
      rw [repeated] at fails
      obtain rfl : reported = cause := Except.error.inj fails
      obtain ⟨e, reason, payload, present, isWrapped, found, hook⟩ :=
        readRequest_error ordinary repeated
      exact ⟨e, reason, payload, present, .inr ⟨isWrapped, ⟨rpc, isAnswer_iff.2 answered, found⟩, hook⟩⟩
    | ok requestData =>
      rw [repeated, ok_bind] at fails
      cases found : reader.outcomeOf wrapped rpc m with
      | ok outcome =>
        rw [found] at fails
        cases fails
      | error reported =>
        rw [found] at fails
        obtain rfl : reported = cause := Except.error.inj fails
        obtain ⟨e, reason, payload, present, held, refused⟩ := outcomeOf_error ordinary found
        exact ⟨e, reason, payload, present, .inl ⟨(isContent_iff answered).2 held, refused⟩⟩

/-- Every response that is read is of one kind, and reading fails only where a reader of content
does. -/
theorem read_classified (reader : ResponseReader α β) (ordinary : reader.metaService = false)
    (expected : Option String) (wrapped : Bool) (m : Soap.Message) :
    (∀ r, reader.read expected wrapped m = .ok r → reader.Classifies expected wrapped m r) ∧
      ∀ cause, reader.read expected wrapped m = .error cause →
        reader.Refuses expected wrapped m cause := by
  refine ⟨fun r reads => ?_, fun cause => refuses_of_error ordinary⟩
  cases answered : answer? (headerOf m).service expected m with
  | none => exact classifies_of_no_answer answered reads
  | some rpc => exact classifies_of_answer ordinary answered reads

/-- An error without a code is found beside other content, which could not be read; the repeated
request, which is empty, is not even looked at. -/
theorem read_classified_mixed :
    let code (s : String) (h : s ≠ "") : Code := ⟨s, h⟩
    let service : Service :=
      { xRoadInstance := code "EE" (by decide), owner := none, serviceCode := code "get" (by decide) }
    let held := (Element.named "response").push
      [.text "\n", (Element.withText "data" "1").node, (Element.withText "FaultString" " no ").node]
    let rpc := (Element.within "getResponse" "p" "urn:p").push
      [(Element.named "request").node, held.node]
    let m := (Soap.Message.empty.pushHeader [service.element.node]).pushBody [rpc.node]
    let reader : ResponseReader Unit Unit :=
      { request := some fun _ _ => .error "not read", response := fun _ _ => .error "not read" }
    reader.metaService = false ∧
      ∃ r, reader.read (some "urn:p") true m = .ok r ∧ reader.Classifies (some "urn:p") true m r ∧
        r.fault = some (.nonTechnical none (some "no")) ∧ r.responseData = none := by
  intro code service held rpc m reader
  have outcome : (reader.read (some "urn:p") true m).map (fun r => (r.fault, r.responseData)) =
      .ok (some (.nonTechnical none (some "no")), none) := by decide
  cases reads : reader.read (some "urn:p") true m with
  | error cause =>
    rw [reads] at outcome
    cases outcome
  | ok r =>
    rw [reads] at outcome
    obtain ⟨fault, data⟩ := Prod.mk.inj (Except.ok.inj outcome)
    exact ⟨rfl, r, rfl, (read_classified reader rfl (some "urn:p") true m).1 r reads, fault, data⟩

end ResponseReader

end XRoad
