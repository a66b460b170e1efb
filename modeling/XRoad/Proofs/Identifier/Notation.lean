import XRoad.Identifier.Notation
import XRoad.Proofs.Header.Identifier

/-!
# Identifiers in point notation

A text names an identifier if and only if it splits at its points into the right number of parts,
none of them empty, and the identifier is written as that text again. Main statement:
`identifier_grammar`.
-/

namespace XRoad

/-! ### Splitting at points -/

/-- The pieces of a text between its points. -/
structure IsSplit (text : String) (pieces : List String) : Prop where
  ne_nil : pieces ≠ []
  noPoint : ∀ p ∈ pieces, '.' ∉ p.toList
  joined : ".".intercalate pieces = text

theorem splitPoints_eq (cs : List Char) : splitPoints cs = cs.splitOn '.' := by
  rw [List.splitOn_eq_splitOnP]
  induction cs with
  | nil => rfl
  | cons c cs ih =>
    rw [splitPoints, List.splitOnP_cons_eq_if_modifyHead, ih]
    by_cases point : c = '.'
    · rw [if_pos point, if_pos (beq_iff_eq.2 point)]
    · rw [if_neg point, if_neg (by simp [point])]
      obtain ⟨piece, pieces, split⟩ :=
        List.exists_cons_of_ne_nil (List.splitOnP_ne_nil (· == '.') cs)
      rw [split]
      rfl

theorem noPoint_of_mem_splitPoints {cs piece : List Char} (m : piece ∈ splitPoints cs) :
    '.' ∉ piece := by
  fun_induction splitPoints cs generalizing piece with
  | case1 =>
    rw [List.mem_singleton.1 m]
    exact List.not_mem_nil
  | case2 rest ih =>
    rcases List.mem_cons.1 m with rfl | later
    · exact List.not_mem_nil
    · exact ih later
  | case3 c rest other first pieces split ih =>
    rw [split] at ih
    rcases List.mem_cons.1 m with rfl | later
    · exact List.not_mem_cons_of_ne_of_not_mem (Ne.symm other) (ih List.mem_cons_self)
    · exact ih (List.mem_cons_of_mem _ later)
  | case4 c rest other none_left =>
    rw [splitPoints_eq] at none_left
    exact absurd none_left (List.splitOn_ne_nil _ _)

theorem isSplit_pointParts (text : String) : IsSplit text (pointParts text) where
  ne_nil := by
    rw [pointParts, splitPoints_eq]
    exact mt List.map_eq_nil_iff.1 (List.splitOn_ne_nil _ _)
  noPoint p m := by
    obtain ⟨piece, member, rfl⟩ := List.mem_map.1 m
    rw [String.toList_ofList]
    exact noPoint_of_mem_splitPoints member
  joined := by
    rw [← String.toList_inj, String.toList_intercalate, pointParts, List.map_map]
    have same : String.toList ∘ String.ofList = id := funext fun _ => String.toList_ofList
    rw [same, List.map_id, splitPoints_eq]
    exact List.intercalate_splitOn '.'

theorem IsSplit.eq_pointParts {text : String} {pieces : List String}
    (split : IsSplit text pieces) : pieces = pointParts text := by
  have again : splitPoints text.toList = pieces.map String.toList := by
    rw [splitPoints_eq, ← split.joined, String.toList_intercalate]
    refine List.splitOn_intercalate '.' (fun piece m => ?_) (mt List.map_eq_nil_iff.1 split.ne_nil)
    obtain ⟨p, member, rfl⟩ := List.mem_map.1 m
    exact split.noPoint p member
  have same : String.ofList ∘ String.toList = id := funext fun _ => String.ofList_toList
  rw [pointParts, again, List.map_map, same, List.map_id]

/-! ### Versions -/

/-- A letter V perhaps, then digits of any script, low lines and hyphens, at least one. -/
def IsVersionText (text : String) : Prop :=
  ∃ letter number, text.toList = letter ++ number ∧ letter ∈ [[], ['v'], ['V']] ∧ number ≠ [] ∧
    ∀ c ∈ number, Text.isDigit c ∨ c = '_' ∨ c = '-'

theorem isVersionChar_iff {c : Char} :
    isVersionChar c ↔ Text.isDigit c ∨ c = '_' ∨ c = '-' := by
  rw [isVersionChar, Bool.or_eq_true, Bool.or_eq_true, beq_iff_eq, beq_iff_eq, or_assoc]

theorem isVersion_iff {text : String} : isVersion text ↔ IsVersionText text := by
  have number (cs : List Char) : (!cs.isEmpty && cs.all isVersionChar) ↔
      cs ≠ [] ∧ ∀ c ∈ cs, Text.isDigit c ∨ c = '_' ∨ c = '-' := by
    simp [isVersionChar_iff]
  unfold isVersion IsVersionText
  constructor
  · intro version
    split at version
    · next rest chars => exact ⟨['v'], rest, chars, by simp, (number rest).1 version⟩
    · next rest chars => exact ⟨['V'], rest, chars, by simp, (number rest).1 version⟩
    · exact ⟨[], text.toList, rfl, by simp, (number _).1 version⟩
  · rintro ⟨letter, cs, chars, isLetter, version⟩
    rw [chars]
    -- Without the letter, the number does not begin with one either.
    have noLetter : ∀ c ∈ cs, c ≠ 'v' ∧ c ≠ 'V' := by
      intro c m
      have digit := isVersionChar_iff.2 (version.2 c m)
      constructor <;> rintro rfl <;> revert digit <;> decide
    simp only [List.mem_cons, List.not_mem_nil, or_false] at isLetter
    rcases isLetter with rfl | rfl | rfl
    · rw [List.nil_append]
      split
      · exact absurd rfl (noLetter 'v' List.mem_cons_self).1
      · exact absurd rfl (noLetter 'V' List.mem_cons_self).2
      · exact (number cs).2 version
    · exact (number cs).2 version
    · exact (number cs).2 version

/-- The last piece is a version. -/
def EndsInVersion (pieces : List String) : Prop :=
  ∃ v, pieces.getLast? = some v ∧ IsVersionText v

/-! ### Reading what was written -/

/-- A text splits into one of these numbers of pieces, and no piece is empty. -/
def HasParts (counts : List Nat) (text : String) : Prop :=
  ∃ pieces, IsSplit text pieces ∧ pieces.length ∈ counts ∧ ∀ p ∈ pieces, p ≠ ""

theorem joinParts_eq {codes : List Code} {text : String}
    (pieces : codes.map (·.text) = pointParts text) : joinParts codes = text := by
  rw [joinParts, pieces]
  exact (isSplit_pointParts text).joined

/-- The pieces of a text with the right number of parts are codes. -/
theorem hasParts_iff {counts : List Nat} {text : String} :
    HasParts counts text ↔
      ∃ codes : List Code, codes.length ∈ counts ∧ codes.map (·.text) = pointParts text := by
  constructor
  · rintro ⟨pieces, split, count, full⟩
    refine ⟨pieces.attach.map fun p => ⟨p.1, full p.1 p.2⟩, by simpa using count, ?_⟩
    rw [List.map_map, ← split.eq_pointParts]
    exact List.attach_map_subtype_val pieces
  · rintro ⟨codes, count, pieces⟩
    refine ⟨pointParts text, isSplit_pointParts text, ?_, fun p m => ?_⟩
    · rwa [← pieces, List.length_map]
    · rw [← pieces] at m
      obtain ⟨c, -, rfl⟩ := List.mem_map.1 m
      exact c.ne_empty

theorem Code.required_ok {part text : String} {c : Code} (present : required part text = .ok c) :
    text = c.text := by
  unfold required of? at present
  split at present
  · next found =>
    split at found
    · cases found
    · rw [← Except.ok.inj present, ← Option.some.inj found]
  · cases present

theorem Member.build_ok {i cls code : String} {m : Member} (built : build i cls code = .ok m) :
    i = m.xRoadInstance.text ∧ cls = m.memberClass.text ∧ code = m.memberCode.text := by
  unfold build at built
  obtain ⟨a, first, built⟩ := bind_ok built
  obtain ⟨b, second, built⟩ := bind_ok built
  obtain ⟨c, third, built⟩ := bind_ok built
  rw [← Except.ok.inj built]
  exact ⟨Code.required_ok first, Code.required_ok second, Code.required_ok third⟩

theorem Member.build_text (m : Member) :
    build m.xRoadInstance.text m.memberClass.text m.memberCode.text = .ok m := by
  simp only [build, Code.required_text, ok_bind]

/-- A consumer is read from a text if and only if its parts are the pieces of that text. -/
theorem Consumer.ofText?_eq_some_iff {text : String} {c : Consumer} :
    ofText? text = some c ↔ c.parts.map (·.text) = pointParts text := by
  unfold ofText?
  constructor
  · intro read
    split at read
    · next i cls code pieces =>
      obtain ⟨m, built, made⟩ := bind_ok (ok_of_toOption read)
      obtain rfl := Except.ok.inj made
      obtain ⟨rfl, rfl, rfl⟩ := Member.build_ok built
      exact pieces.symm
    · next i cls code subsystem pieces =>
      obtain ⟨m, built, made⟩ := bind_ok (ok_of_toOption read)
      obtain ⟨s, given, made⟩ := bind_ok made
      obtain rfl := Except.ok.inj made
      obtain ⟨rfl, rfl, rfl⟩ := Member.build_ok built
      obtain rfl := Code.required_ok given
      exact pieces.symm
    · cases read
  · intro pieces
    obtain ⟨m, subsystem⟩ := c
    rw [← pieces]
    cases subsystem with
    | none =>
      change (member m.xRoadInstance.text m.memberClass.text m.memberCode.text).toOption = _
      rw [member, Member.build_text]
      rfl
    | some s =>
      change (ofSubsystem m.xRoadInstance.text m.memberClass.text m.memberCode.text
        s.text).toOption = _
      rw [ofSubsystem, Member.build_text, ok_bind, Code.required_text]
      rfl

theorem SecurityServer.ofText?_eq_some_iff {text : String} {s : SecurityServer} :
    ofText? text = some s ↔ s.parts.map (·.text) = pointParts text := by
  unfold ofText?
  constructor
  · intro read
    split at read
    · next i cls code server pieces =>
      obtain ⟨m, built, made⟩ := bind_ok (ok_of_toOption read)
      obtain ⟨c, given, made⟩ := bind_ok made
      obtain rfl := Except.ok.inj made
      obtain ⟨rfl, rfl, rfl⟩ := Member.build_ok built
      obtain rfl := Code.required_ok given
      exact pieces.symm
    · cases read
  · intro pieces
    obtain ⟨m, server⟩ := s
    rw [← pieces]
    change (build m.xRoadInstance.text m.memberClass.text m.memberCode.text
      server.text).toOption = _
    rw [build, Member.build_text, ok_bind, Code.required_text]
    rfl

namespace Service

theorem owned_ok {i cls code service : String} {s : Service}
    (built : owned i cls code service = .ok s) :
    ∃ a b c d : Code, i = a.text ∧ cls = b.text ∧ code = c.text ∧ service = d.text ∧
      s = { xRoadInstance := a, owner := some ⟨b, c⟩, serviceCode := d } := by
  unfold owned at built
  obtain ⟨m, member, built⟩ := bind_ok built
  obtain ⟨d, given, built⟩ := bind_ok built
  obtain ⟨first, second, third⟩ := Member.build_ok member
  exact ⟨_, _, _, d, first, second, third, Code.required_ok given, (Except.ok.inj built).symm⟩

theorem withSubsystem_ok {s s' : Service} {subsystem : String}
    (built : s.withSubsystem subsystem = .ok s') :
    ∃ c : Code, subsystem = c.text ∧ s' = { s with subsystem := some c } := by
  unfold withSubsystem at built
  obtain ⟨c, given, built⟩ := bind_ok built
  exact ⟨c, Code.required_ok given, (Except.ok.inj built).symm⟩

theorem withVersion_ok {s s' : Service} {version : String}
    (built : s.withVersion version = .ok s') :
    ∃ c : Code, version = c.text ∧ s' = { s with version := some c } := by
  unfold withVersion at built
  obtain ⟨c, given, built⟩ := bind_ok built
  exact ⟨c, Code.required_ok given, (Except.ok.inj built).symm⟩

theorem owned_text (i cls code service : Code) :
    owned i.text cls.text code.text service.text =
      .ok { xRoadInstance := i, owner := some ⟨cls, code⟩, serviceCode := service } := by
  simp only [owned, Member.build, Code.required_text, ok_bind]

theorem withSubsystem_text (s : Service) (c : Code) :
    s.withSubsystem c.text = .ok { s with subsystem := some c } := by
  rw [withSubsystem, Code.required_text, ok_bind]

theorem withVersion_text (s : Service) (c : Code) :
    s.withVersion c.text = .ok { s with version := some c } := by
  rw [withVersion, Code.required_text, ok_bind]

theorem parts_of_ofText? {text : String} {s : Service} (read : ofText? text = some s) :
    s.owner.isSome ∧ s.parts.map (·.text) = pointParts text ∧
      (s.parts.length = 5 → (s.version.isSome ↔ EndsInVersion (pointParts text))) := by
  unfold ofText? at read
  split at read
  · next i cls code service pieces =>
    obtain ⟨a, b, c, d, rfl, rfl, rfl, rfl, rfl⟩ := owned_ok (ok_of_toOption read)
    exact ⟨rfl, pieces.symm, nofun⟩
  · next i cls code first last pieces =>
    split at read
    · next version =>
      obtain ⟨s', built, made⟩ := bind_ok (ok_of_toOption read)
      obtain ⟨a, b, c, d, rfl, rfl, rfl, rfl, rfl⟩ := owned_ok built
      obtain ⟨v, rfl, rfl⟩ := withVersion_ok made
      refine ⟨rfl, pieces.symm, fun _ => iff_of_true rfl ?_⟩
      rw [pieces]
      exact ⟨v.text, rfl, isVersion_iff.1 version⟩
    · next noVersion =>
      obtain ⟨s', built, made⟩ := bind_ok (ok_of_toOption read)
      obtain ⟨a, b, c, d, rfl, rfl, rfl, rfl, rfl⟩ := owned_ok built
      obtain ⟨u, rfl, rfl⟩ := withSubsystem_ok made
      refine ⟨rfl, pieces.symm, fun _ => iff_of_false nofun ?_⟩
      rw [pieces]
      rintro ⟨v, last, version⟩
      rw [← Option.some.inj last] at version
      exact noVersion (isVersion_iff.2 version)
  · next i cls code subsystem service version pieces =>
    obtain ⟨s', built, made⟩ := bind_ok (ok_of_toOption read)
    obtain ⟨s'', nested, made⟩ := bind_ok made
    obtain ⟨a, b, c, d, rfl, rfl, rfl, rfl, rfl⟩ := owned_ok built
    obtain ⟨u, rfl, rfl⟩ := withSubsystem_ok nested
    obtain ⟨v, rfl, rfl⟩ := withVersion_ok made
    exact ⟨rfl, pieces.symm, nofun⟩
  · cases read

theorem ofText?_of_parts {text : String} {s : Service} (isOwned : s.owner.isSome)
    (pieces : s.parts.map (·.text) = pointParts text)
    (fifth : s.parts.length = 5 → (s.version.isSome ↔ EndsInVersion (pointParts text))) :
    ofText? text = some s := by
  obtain ⟨i, owner, subsystem, service, version⟩ := s
  obtain ⟨⟨cls, code⟩, rfl⟩ := Option.isSome_iff_exists.1 isOwned
  rw [← pieces] at fifth
  unfold ofText?
  rw [← pieces]
  cases subsystem with
  | none =>
    cases version with
    | none =>
      change (owned i.text cls.text code.text service.text).toOption = _
      rw [owned_text]
      rfl
    | some v =>
      have isVer : isVersion v.text := by
        obtain ⟨v', last, version⟩ := (fifth rfl).1 rfl
        rw [isVersion_iff, show v.text = v' from Option.some.inj last]
        exact version
      change (if isVersion v.text then _ else _) = _
      rw [if_pos isVer, owned_text, ok_bind, withVersion_text]
      rfl
  | some u =>
    cases version with
    | none =>
      have noVersion : ¬ isVersion service.text := fun version =>
        nomatch (fifth rfl).2 ⟨service.text, rfl, isVersion_iff.1 version⟩
      change (if isVersion service.text then _ else _) = _
      rw [if_neg noVersion, owned_text, ok_bind, withSubsystem_text]
      rfl
    | some v =>
      change (owned i.text cls.text code.text service.text >>= fun s =>
        s.withSubsystem u.text >>= fun s => s.withVersion v.text).toOption = _
      rw [owned_text, ok_bind, withSubsystem_text, ok_bind, withVersion_text]
      rfl

/-- A service is read from a text if and only if it has an owner, its parts are the pieces of the
text, and the last of five pieces is its version exactly when it looks like one. -/
theorem ofText?_eq_some_iff {text : String} {s : Service} :
    ofText? text = some s ↔
      s.owner.isSome ∧ s.parts.map (·.text) = pointParts text ∧
        (s.parts.length = 5 → (s.version.isSome ↔ EndsInVersion (pointParts text))) :=
  ⟨parts_of_ofText?, fun ⟨isOwned, pieces, fifth⟩ => ofText?_of_parts isOwned pieces fifth⟩

end Service

/-! ### The grammar -/

theorem Service.length_parts {s : Service} (isOwned : s.owner.isSome) :
    s.parts.length = 4 + s.subsystem.isSome.toNat + s.version.isSome.toNat := by
  obtain ⟨i, owner, subsystem, service, version⟩ := s
  obtain ⟨owner, rfl⟩ := Option.isSome_iff_exists.1 isOwned
  cases subsystem <;> cases version <;> rfl

theorem Consumer.isSome_ofText?_iff {text : String} :
    (ofText? text).isSome ↔ HasParts [3, 4] text := by
  rw [Option.isSome_iff_exists, hasParts_iff]
  simp only [ofText?_eq_some_iff]
  constructor
  · rintro ⟨⟨m, subsystem⟩, pieces⟩
    refine ⟨_, ?_, pieces⟩
    cases subsystem with
    | none => exact List.mem_cons_self
    | some s => exact List.mem_cons_of_mem 3 List.mem_cons_self
  · rintro ⟨codes, count, pieces⟩
    match codes, count with
    | [i, cls, code], _ => exact ⟨{ toMember := ⟨i, cls, code⟩, subsystem := none }, pieces⟩
    | [i, cls, code, s], _ => exact ⟨{ toMember := ⟨i, cls, code⟩, subsystem := some s }, pieces⟩

theorem SecurityServer.isSome_ofText?_iff {text : String} :
    (ofText? text).isSome ↔ HasParts [4] text := by
  rw [Option.isSome_iff_exists, hasParts_iff]
  simp only [ofText?_eq_some_iff]
  constructor
  · rintro ⟨s, pieces⟩
    exact ⟨_, List.mem_singleton_self _, pieces⟩
  · rintro ⟨codes, count, pieces⟩
    match codes, count with
    | [i, cls, code, server], _ =>
      exact ⟨{ toMember := ⟨i, cls, code⟩, serverCode := server }, pieces⟩

theorem Service.isSome_ofText?_iff {text : String} :
    (ofText? text).isSome ↔ HasParts [4, 5, 6] text := by
  rw [Option.isSome_iff_exists, hasParts_iff]
  simp only [ofText?_eq_some_iff]
  constructor
  · rintro ⟨s, isOwned, pieces, -⟩
    refine ⟨_, ?_, pieces⟩
    rw [length_parts isOwned]
    cases s.subsystem.isSome <;> cases s.version.isSome <;> decide
  · rintro ⟨codes, count, pieces⟩
    match codes, count with
    | [i, cls, code, service], _ =>
      exact ⟨{ xRoadInstance := i, owner := some ⟨cls, code⟩, serviceCode := service },
        rfl, pieces, nofun⟩
    | [i, cls, code, a, b], _ =>
      by_cases ends : EndsInVersion (pointParts text)
      · exact ⟨{ xRoadInstance := i, owner := some ⟨cls, code⟩
                 serviceCode := a, version := some b },
          rfl, pieces, fun _ => iff_of_true rfl ends⟩
      · exact ⟨{ xRoadInstance := i, owner := some ⟨cls, code⟩
                 subsystem := some a, serviceCode := b },
          rfl, pieces, fun _ => iff_of_false nofun ends⟩
    | [i, cls, code, u, service, v], _ =>
      exact ⟨{ xRoadInstance := i, owner := some ⟨cls, code⟩, subsystem := some u
               serviceCode := service, version := some v }, rfl, pieces, nofun⟩

/-- Which of its optional parts a service has can be told from its text. -/
theorem Service.optional_of_ofText? {text : String} {s : Service} (read : ofText? text = some s) :
    let pieces := pointParts text
    (s.subsystem.isSome ↔ pieces.length = 6 ∨ pieces.length = 5 ∧ ¬ EndsInVersion pieces) ∧
      (s.version.isSome ↔ pieces.length = 6 ∨ pieces.length = 5 ∧ EndsInVersion pieces) := by
  intro pieces
  obtain ⟨isOwned, texts, fifth⟩ := ofText?_eq_some_iff.1 read
  have length : pieces.length = 4 + s.subsystem.isSome.toNat + s.version.isSome.toNat := by
    rw [← length_parts isOwned, ← List.length_map (Code.text), texts]
  rw [length_parts isOwned] at fifth
  rw [length]
  generalize s.subsystem.isSome = nested, s.version.isSome = versioned at fifth ⊢
  cases nested <;> cases versioned <;> grind

/-- Every text is read by exactly one grammar for each kind of identifier, and an identifier that is
read is written as the same text. -/
theorem identifier_grammar (text : String) :
    ((Consumer.ofText? text).isSome ↔ HasParts [3, 4] text) ∧
      ((SecurityServer.ofText? text).isSome ↔ HasParts [4] text) ∧
      ((Service.ofText? text).isSome ↔ HasParts [4, 5, 6] text) ∧
      (∀ c, Consumer.ofText? text = some c → c.text = text) ∧
      (∀ s, SecurityServer.ofText? text = some s → s.text = text) ∧
      ∀ s, Service.ofText? text = some s → s.text = text ∧ s.objectType = .service ∧
        ∃ pieces, IsSplit text pieces ∧
          (s.subsystem.isSome ↔ pieces.length = 6 ∨ pieces.length = 5 ∧ ¬ EndsInVersion pieces) ∧
          (s.version.isSome ↔ pieces.length = 6 ∨ pieces.length = 5 ∧ EndsInVersion pieces) := by
  refine ⟨Consumer.isSome_ofText?_iff, SecurityServer.isSome_ofText?_iff,
    Service.isSome_ofText?_iff, fun c read => ?_, fun s read => ?_, fun s read => ?_⟩
  · exact joinParts_eq (Consumer.ofText?_eq_some_iff.1 read)
  · exact joinParts_eq (SecurityServer.ofText?_eq_some_iff.1 read)
  · obtain ⟨isOwned, pieces, -⟩ := Service.ofText?_eq_some_iff.1 read
    exact ⟨joinParts_eq pieces, if_pos isOwned, pointParts text, isSplit_pointParts text,
      Service.optional_of_ofText? read⟩

/-- The digits of a version may be of any script. -/
theorem identifier_grammar_digits :
    let text := "EE.GOV.1.get.V٢_"
    ∃ s, Service.ofText? text = some s ∧ s.text = text ∧ s.objectType = .service ∧
      s.subsystem.isSome = false ∧ s.version.isSome := by
  intro text
  obtain ⟨-, -, -, -, -, service⟩ := identifier_grammar text
  obtain ⟨s, read⟩ : ∃ s, Service.ofText? text = some s :=
    Option.isSome_iff_exists.1 (by decide)
  obtain ⟨written, regular, pieces, split, subsystem, version⟩ := service s read
  have isVersion : IsVersionText "V٢_" := isVersion_iff.1 (by decide)
  obtain rfl : pieces = ["EE", "GOV", "1", "get", "V٢_"] := split.eq_pointParts.trans (by decide)
  have ends : EndsInVersion ["EE", "GOV", "1", "get", "V٢_"] := ⟨_, rfl, isVersion⟩
  refine ⟨s, read, written, regular, ?_, version.2 (.inr ⟨rfl, ends⟩)⟩
  rw [Bool.eq_false_iff, Ne, subsystem]
  rintro (six | ⟨-, noVersion⟩)
  · cases six
  · exact noVersion ends

end XRoad
