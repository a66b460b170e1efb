import XRoad.Proofs.Identifier.Notation

/-!
# The two shapes of services

Producers that are changed call by call. A service of a member has its class and its code, a central
service has neither, and nothing that is there is empty; but a central service keeps the subsystem and
the version that calls give it, and these are lost when it is read. Main statement: `shape_of_run`.
-/

namespace XRoad

/-! ### What is read from elements -/

theorem Code.isTrimmed_of_partText {e : Xml.Element} {part : String} {c : Code}
    (given : partText e.table part = c.text) : c.IsTrimmed := by
  unfold partText at given
  cases found : e.table.get? part with
  | none =>
    rw [found] at given
    exact absurd given.symm c.ne_empty
  | some v =>
    rw [found, Option.getD_some] at given
    rw [IsTrimmed, ← given]
    exact Xml.Element.trimmed_of_get?_table found

theorem Code.of?_eq_some {text : String} {c : Code} (made : of? text = some c) : text = c.text := by
  unfold of? at made
  split at made
  · cases made
  · rw [← Option.some.inj made]

theorem Code.isTrimmed_of_optional {e : Xml.Element} {part : String} {c : Code}
    (given : (e.table.get? part).bind of? = some c) : c.IsTrimmed := by
  obtain ⟨v, found, made⟩ := Option.bind_eq_some_iff.1 given
  rw [IsTrimmed, ← of?_eq_some made]
  exact Xml.Element.trimmed_of_get?_table found

namespace Service

theorem central_ok {i service : String} {s : Service} (built : central i service = .ok s) :
    ∃ a d : Code, i = a.text ∧ service = d.text ∧
      s = { xRoadInstance := a, owner := none, serviceCode := d } := by
  unfold central at built
  obtain ⟨a, first, built⟩ := bind_ok built
  obtain ⟨d, second, built⟩ := bind_ok built
  exact ⟨a, d, Code.required_ok first, Code.required_ok second, (Except.ok.inj built).symm⟩

theorem inElement_ok {α : Type} {e : Xml.Element} {x : Except IdentifierError α} {a : α}
    (read : inElement e x = .ok a) : x = .ok a := by
  cases x with
  | error cause => cases read
  | ok b => rw [Except.ok.inj read]

/-- A central service has no subsystem and no version. -/
def IsPlain (s : Service) : Prop :=
  s.objectType = .centralService → s.subsystem = none ∧ s.version = none

/-- What is read from an element is plain, and its codes are trimmed. -/
theorem isPlain_of_ofElement {e : Xml.Element} {s : Service} (read : ofElement e = .ok s) :
    s.IsPlain ∧ ∀ c ∈ s.parts, c.IsTrimmed := by
  unfold ofElement at read
  obtain ⟨type, -, read⟩ := bind_ok read
  have built := inElement_ok read
  unfold ofParts at built
  split at built
  · obtain ⟨s', owner, made⟩ := bind_ok built
    obtain ⟨a, b, c, d, first, second, third, fourth, rfl⟩ := owned_ok owner
    obtain rfl := Except.ok.inj made
    constructor
    · intro central
      cases central
    · intro p m
      simp only [parts, setVersion, setSubsystem, memberClass, memberCode, Option.map_some,
        Option.toList_some, List.mem_append, List.mem_singleton, Option.mem_toList] at m
      rcases m with ((((rfl | rfl) | rfl) | given) | rfl) | given
      · exact Code.isTrimmed_of_partText first
      · exact Code.isTrimmed_of_partText second
      · exact Code.isTrimmed_of_partText third
      · exact Code.isTrimmed_of_optional given
      · exact Code.isTrimmed_of_partText fourth
      · exact Code.isTrimmed_of_optional given
  · obtain ⟨a, d, first, second, rfl⟩ := central_ok built
    constructor
    · intro _
      exact ⟨rfl, rfl⟩
    · intro p m
      simp only [parts, memberClass, memberCode, Option.map_none, Option.toList_none,
        List.append_nil, List.mem_append, List.mem_singleton] at m
      rcases m with rfl | rfl
      · exact Code.isTrimmed_of_partText first
      · exact Code.isTrimmed_of_partText second
  · cases built

theorem objectType_eq_central_iff {s : Service} :
    s.objectType = .centralService ↔ s.owner = none := by
  unfold objectType
  cases s.owner <;> simp

/-- A service loses nothing on its way over the wire if and only if it is plain and its codes are
trimmed. -/
theorem ofElement_reread_iff {s : Service} (scope : Xml.Scope) :
    ofElement (s.element.reread scope) = .ok s ↔ s.IsPlain ∧ ∀ c ∈ s.parts, c.IsTrimmed := by
  constructor
  · intro read
    exact isPlain_of_ofElement read
  · rintro ⟨plain, trimmed⟩
    rw [ofElement_reread trimmed, readBack_eq_self]
    intro central
    exact plain (objectType_eq_central_iff.2 central)

end Service

/-! ### Calls -/

namespace Producer

inductive Call where
  | withSubsystem (text : String)
  | withVersion (text : String)
  | withNamespace (nsPrefix nsUri : Option String)
  /-- An empty text takes the subsystem away. -/
  | setSubsystem (text : Option String)
  /-- An empty text takes the version away. -/
  | setVersion (text : Option String)

def step (p : Producer) : Call → Except IdentifierError Producer
  | .withSubsystem text => do .ok { p with toService := ← p.withSubsystem text }
  | .withVersion text => do .ok { p with toService := ← p.withVersion text }
  | .withNamespace nsPrefix nsUri => .ok { p with bodyPrefix := nsPrefix, bodyUri := nsUri }
  | .setSubsystem text => .ok { p with toService := p.toService.setSubsystem text }
  | .setVersion text => .ok { p with toService := p.toService.setVersion text }

/-- Some calls one after another, up to the first that fails. -/
def run (p : Producer) : List Call → Except IdentifierError Producer
  | [] => .ok p
  | call :: rest => do (← p.step call).run rest

/-- The subsystem that a call gives or takes away. -/
def Call.subsystem? : Call → Option (Option Code)
  | .withSubsystem text => some (Code.of? text)
  | .setSubsystem text => some (text.bind Code.of?)
  | _ => none

def Call.version? : Call → Option (Option Code)
  | .withVersion text => some (Code.of? text)
  | .setVersion text => some (text.bind Code.of?)
  | _ => none

/-- What the last call that concerns a part makes of it. -/
def partAfter (part? : Call → Option (Option Code)) (calls : List Call) (before : Option Code) :
    Option Code :=
  calls.foldl (fun before call => (part? call).getD before) before

theorem step_ok {p q : Producer} {call : Call} (done : p.step call = .ok q) :
    q.xRoadInstance = p.xRoadInstance ∧ q.owner = p.owner ∧ q.serviceCode = p.serviceCode ∧
      q.subsystem = call.subsystem?.getD p.subsystem ∧ q.version = call.version?.getD p.version := by
  cases call with
  | withSubsystem text =>
    obtain ⟨s, changed, done⟩ := bind_ok done
    obtain rfl := Except.ok.inj done
    obtain ⟨c, rfl, rfl⟩ := Service.withSubsystem_ok changed
    exact ⟨rfl, rfl, rfl, (Code.of?_text c).symm, rfl⟩
  | withVersion text =>
    obtain ⟨s, changed, done⟩ := bind_ok done
    obtain rfl := Except.ok.inj done
    obtain ⟨c, rfl, rfl⟩ := Service.withVersion_ok changed
    exact ⟨rfl, rfl, rfl, rfl, (Code.of?_text c).symm⟩
  | _ =>
    obtain rfl := Except.ok.inj done
    exact ⟨rfl, rfl, rfl, rfl, rfl⟩

theorem run_ok {p q : Producer} {calls : List Call} (done : p.run calls = .ok q) :
    q.xRoadInstance = p.xRoadInstance ∧ q.owner = p.owner ∧ q.serviceCode = p.serviceCode ∧
      q.subsystem = partAfter Call.subsystem? calls p.subsystem ∧
      q.version = partAfter Call.version? calls p.version := by
  induction calls generalizing p with
  | nil =>
    obtain rfl := Except.ok.inj done
    exact ⟨rfl, rfl, rfl, rfl, rfl⟩
  | cons call calls ih =>
    obtain ⟨p', first, done⟩ := bind_ok done
    obtain ⟨i, owner, service, subsystem, version⟩ := step_ok first
    rw [partAfter, partAfter, List.foldl_cons, List.foldl_cons, ← subsystem, ← version, ← i, ← owner,
      ← service]
    exact ih done

end Producer

/-! ### Where services come from -/

/-- Made of its parts, or read from a text or from an element. -/
inductive Service.IsOrigin : Service → Prop
  | owned {i cls code service : String} {s : Service}
      (built : Service.owned i cls code service = .ok s) : IsOrigin s
  | central {i service : String} {s : Service} (built : Service.central i service = .ok s) :
      IsOrigin s
  | text {text : String} {s : Service} (read : Service.ofText? text = some s) : IsOrigin s
  | element {e : Xml.Element} {s : Service} (read : Service.ofElement e = .ok s) : IsOrigin s

theorem Service.IsOrigin.isPlain {s : Service} (origin : s.IsOrigin) : s.IsPlain := by
  intro isCentral
  rw [objectType_eq_central_iff] at isCentral
  cases origin with
  | owned built =>
    obtain ⟨a, b, c, d, -, -, -, -, rfl⟩ := owned_ok built
    cases isCentral
  | central built =>
    obtain ⟨a, d, -, -, rfl⟩ := central_ok built
    exact ⟨rfl, rfl⟩
  | text read =>
    have isOwned := (ofText?_eq_some_iff.1 read).1
    rw [isCentral] at isOwned
    cases isOwned
  | element read => exact (isPlain_of_ofElement read).1 (objectType_eq_central_iff.2 isCentral)

/-- After any calls, a producer has both parts of an owner or neither, and no part is empty. A central
one has no subsystem and no version, and so is read from its element again, if and only if the calls
leave it none. -/
theorem Producer.shape_of_run {s : Service} {calls : List Call} {p : Producer}
    (origin : s.IsOrigin) (done : (ofService s).run calls = .ok p) :
    let isLeftPlain :=
      partAfter Call.subsystem? calls none = none ∧ partAfter Call.version? calls none = none
    (∀ c ∈ p.parts, c.text ≠ "") ∧ (p.memberClass.isSome ↔ p.memberCode.isSome) ∧
      (p.objectType = .centralService ↔ p.memberClass = none) ∧
      (p.objectType = .centralService →
        (p.subsystem = none ∧ p.version = none ↔ isLeftPlain)) ∧
      ∀ scope, Service.ofElement (p.element.reread scope) = .ok p.toService ↔
        (∀ c ∈ p.parts, c.IsTrimmed) ∧ (p.objectType = .centralService → isLeftPlain) := by
  intro isLeftPlain
  obtain ⟨-, owner, -, subsystem, version⟩ := run_ok done
  have bare : p.objectType = .centralService →
      (p.subsystem = none ∧ p.version = none ↔ isLeftPlain) := by
    intro central
    have plain := origin.isPlain (by
      rw [Service.objectType_eq_central_iff] at central ⊢
      exact owner.symm.trans central)
    rw [subsystem, version]
    change partAfter _ calls s.subsystem = none ∧ partAfter _ calls s.version = none ↔ _
    rw [plain.1, plain.2]
  refine ⟨fun c _ => c.ne_empty, ?_, ?_, bare, fun scope => ?_⟩
  · rw [Service.memberClass, Service.memberCode, Option.isSome_map, Option.isSome_map]
  · rw [Service.objectType_eq_central_iff, Service.memberClass, Option.map_eq_none_iff]
  · rw [Service.ofElement_reread_iff, and_comm, Service.IsPlain]
    exact and_congr_right fun _ => forall_congr' bare

/-- A central service that was given a subsystem and a version, which were then taken away. -/
theorem Producer.shape_of_run_emptied :
    let calls : List Call :=
      [.withSubsystem "sub", .setVersion (some "v1"), .setSubsystem (some ""), .setVersion none]
    ∃ s p, Service.central "FI" "get" = .ok s ∧ (ofService s).run calls = .ok p ∧
      p.objectType = .centralService ∧ p.subsystem = none ∧ p.version = none ∧
      Service.ofElement (p.element.reread []) = .ok p.toService := by
  intro calls
  obtain ⟨s, built⟩ : ∃ s, Service.central "FI" "get" = .ok s := ⟨_, rfl⟩
  obtain ⟨p, done⟩ : ∃ p, (ofService s).run calls = .ok p := ⟨_, rfl⟩
  obtain ⟨-, -, isCentral, bare, read⟩ := shape_of_run (.central built) done
  obtain rfl := Except.ok.inj built
  obtain rfl := Except.ok.inj done
  have plain := (bare rfl).2 ⟨rfl, rfl⟩
  exact ⟨_, _, rfl, rfl, isCentral.2 rfl, plain.1, plain.2,
    (read []).2 ⟨by decide, fun _ => ⟨rfl, rfl⟩⟩⟩

/-- The subsystem of a central service is written and not read. -/
theorem Producer.central_subsystem_unread :
    ∃ s p q, Service.central "FI" "get" = .ok s ∧
      (ofService s).run [.setSubsystem (some "sub")] = .ok p ∧
      p.objectType = .centralService ∧ p.subsystem.isSome ∧
      Service.ofElement (p.element.reread []) = .ok q ∧ q.subsystem = none :=
  ⟨_, _, _, rfl, rfl, rfl, rfl, rfl, rfl⟩

end XRoad
