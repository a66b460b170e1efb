import XRoad.Proofs.Xml.Scoped

/-!
# Tags that were read

What a tag that was read is like, whatever the document: its names and its keys end where the
markup around them begins, no key comes twice, and each written name stands in its scope for the
name that it was read as. Main statements: `Scope.isRead_of_tag` and `Tag.IsRead.tag_written`.
-/

namespace XRoad.Xml

open Text (Raw)
open Token (isSpace raw)

theorem eq_raw_of_text {r : Raw} {s : String} (read : Attributes.text r = .ok s) : r = raw s := by
  rw [Attributes.text, Raw.text?] at read
  cases cs : r.mapM id with
  | none =>
    rw [cs] at read
    cases read
  | some cs' =>
    rw [cs] at read
    obtain rfl : String.ofList cs' = s := Except.ok.inj read
    rw [raw, String.toList_ofList]
    induction r generalizing cs' with
    | nil =>
      obtain rfl : [] = cs' := Option.some.inj cs
      rfl
    | cons a r ih =>
      rw [List.mapM_cons] at cs
      obtain ⟨c, rfl, rest⟩ := Option.bind_eq_some_iff.1 cs
      obtain ⟨ds, tail, rest⟩ := Option.bind_eq_some_iff.1 rest
      obtain rfl := Option.some.inj rest
      rw [List.map_cons, ← ih ds tail rfl]

/-! ### Names in tokens -/

namespace Token

/-- The name in a tag ends at the first space, and no other markup begins with it. -/
def HasTagName : Token → Prop
  | .startTag name _ | .emptyTag name _ =>
    (∀ a ∈ name, isSpace a = false) ∧
      ∀ a ∈ name.head?, a ≠ some '!' ∧ a ≠ some '?' ∧ a ≠ some '/'
  | _ => True

theorem cutTag?_eq {quote : Option Char} {input before after : Raw}
    (cut : cutTag? quote input = some (before, after)) : input = before ++ some '>' :: after := by
  induction input generalizing quote before with
  | nil => simp [cutTag?] at cut
  | cons c rest ih =>
    cases quote with
    | none =>
      simp only [cutTag?] at cut
      split at cut
      · next ends =>
        obtain ⟨rfl, rfl⟩ := Prod.mk.inj (Option.some.inj cut)
        rw [ends, List.nil_append]
      · obtain ⟨⟨b, a⟩, inner, parts⟩ := Option.map_eq_some_iff.1 cut
        obtain ⟨rfl, rfl⟩ := Prod.mk.inj parts
        rw [ih inner, List.cons_append]
    | some q =>
      simp only [cutTag?] at cut
      obtain ⟨⟨b, a⟩, inner, parts⟩ := Option.map_eq_some_iff.1 cut
      obtain ⟨rfl, rfl⟩ := Prod.mk.inj parts
      rw [ih inner, List.cons_append]

theorem hasTagName_ofTag {content : Raw}
    (head : ∀ a ∈ content.head?, a ≠ some '!' ∧ a ≠ some '?' ∧ a ≠ some '/') :
    (ofTag content).HasTagName := by
  have name (content : Raw) (head : ∀ a ∈ content.head?, a ≠ some '!' ∧ a ≠ some '?' ∧ a ≠ some '/') :
      (∀ a ∈ content.takeWhile (!isSpace ·), isSpace a = false) ∧
        ∀ a ∈ (content.takeWhile (!isSpace ·)).head?, a ≠ some '!' ∧ a ≠ some '?' ∧ a ≠ some '/' := by
    refine ⟨fun a m => by simpa using List.mem_takeWhile_imp m, fun a m => head a ?_⟩
    obtain ⟨rest, parts⟩ := List.takeWhile_prefix (!isSpace ·) (l := content)
    rw [← parts, List.head?_append, Option.mem_def.1 m]
    rfl
  rw [ofTag]
  split
  · refine name _ fun a m => head a ?_
    obtain ⟨rest, parts⟩ := List.dropLast_prefix content
    rw [← parts, List.head?_append, Option.mem_def.1 m]
    rfl
  · exact name _ head

theorem hasTagName_of_map {α : Type} {f : α → Token × Raw} {found : Option α} {token : Token}
    {rest : Raw} (made : found.map f = some (token, rest)) (all : ∀ x, (f x).1.HasTagName) :
    token.HasTagName := by
  obtain ⟨x, -, same⟩ := Option.map_eq_some_iff.1 made
  have := all x
  rwa [same] at this

theorem hasTagName_of_markup? {input rest : Raw} {token : Token}
    (next : markup? input = some (token, rest)) : token.HasTagName := by
  unfold markup? at next
  split at next
  · cases next
  · unfold declaration? at next
    split at next
    · exact hasTagName_of_map next fun _ => trivial
    split at next
    · exact hasTagName_of_map next fun _ => trivial
    split at next
    · exact hasTagName_of_map next fun _ => trivial
    · cases next
  · unfold instruction? at next
    split at next
    · cases next
    · exact hasTagName_of_map next fun _ => trivial
  · exact hasTagName_of_map next fun _ => trivial
  · next input bang question slash =>
    obtain ⟨⟨content, after⟩, cut, made⟩ := Option.map_eq_some_iff.1 next
    rw [← (Prod.mk.inj made).1]
    refine hasTagName_ofTag fun a m => ?_
    obtain rfl := cutTag?_eq cut
    cases content with
    | nil => cases m
    | cons b content =>
      obtain rfl := Option.some.inj m
      exact ⟨fun e => bang _ (by rw [e]; rfl), fun e => question _ (by rw [e]; rfl),
        fun e => slash _ (by rw [e]; rfl)⟩

theorem hasTagName_of_next? {input rest : Raw} {token : Token}
    (next : next? input = some (token, rest)) : token.HasTagName := by
  unfold next? at next
  split at next
  · exact hasTagName_of_markup? next
  · unfold reference? at next
    simp only at next
    split at next
    · exact (Prod.mk.inj (Option.some.inj next)).1 ▸ trivial
    · cases next
  · exact (Prod.mk.inj (Option.some.inj next)).1 ▸ trivial

theorem hasTagName_of_mem_list {opened : List Raw} {input : Raw} :
    ∀ token ∈ list opened input, token.HasTagName := by
  fun_induction list opened input with
  | case1 => exact nofun
  | case2 =>
    intro token m
    rw [List.mem_singleton.1 m]
    trivial
  | case3 =>
    intro token m
    rw [List.mem_singleton.1 m]
    trivial
  | case4 _ _ _ _ _ next _ _ ih =>
    exact List.forall_mem_cons.2 ⟨hasTagName_of_next? next, ih⟩

theorem hasTagName_of_mem_ofBytes {bytes : List UInt8} :
    ∀ token ∈ ofBytes bytes, token.HasTagName := by
  rw [ofBytes]
  split
  · exact hasTagName_of_mem_list
  · exact hasTagName_of_mem_list

end Token

theorem isTagName_of_raw {s : String} (blankFree : ∀ a ∈ raw s, isSpace a = false)
    (head : ∀ a ∈ (raw s).head?, a ≠ some '!' ∧ a ≠ some '?' ∧ a ≠ some '/') : IsTagName s where
  blankFree c m := blankFree _ (List.mem_map_of_mem m)
  head c m := by
    have here := head (some c) (by rw [raw, List.head?_map, Option.mem_def.1 m]; rfl)
    simpa using here

/-! ### Keys in tags -/

namespace Attributes

theorem next?_key {c : Option Char} {input key value after : Raw}
    (found : next? c input = some (key, value, after)) :
    key = c :: input.takeWhile fun c => c != some '=' && !isSpace c := by
  unfold next? at found
  simp only at found
  split at found
  · split at found
    · split at found
      · split at found
        · exact (Prod.mk.inj (Option.some.inj found)).1.symm
        · cases found
      · cases found
    · cases found
  · cases found

theorem isKey_of_raw {c : Option Char} {s : String} {input : Raw} (first : isSpace c = false)
    (key : raw s = c :: input.takeWhile fun c => c != some '=' && !isSpace c) : IsKey s := by
  rw [raw] at key
  cases chars : s.toList with
  | nil =>
    rw [chars] at key
    cases key
  | cons d ds =>
    rw [chars, List.map_cons, List.cons.injEq] at key
    obtain ⟨rfl, tail⟩ := key
    have inside : ∀ e ∈ ds, e ≠ '=' ∧ isSpace (some e) = false := by
      intro e m
      have := List.mem_takeWhile_imp (tail ▸ List.mem_map_of_mem m)
      simpa using this
    refine ⟨fun empty => ?_, ?_, ?_⟩
    · rw [empty] at chars
      cases chars
    · rw [chars]
      exact List.forall_mem_cons.2 ⟨first, fun e m => (inside e m).2⟩
    · rw [chars]
      exact fun e m => (inside e m).1

/-- Keys that were read end at the equals sign behind them, and none comes twice. -/
theorem list_ok {seen : List Raw} {input : Raw} {pairs : List (String × String)}
    (read : list seen input = .ok pairs) :
    (∀ p ∈ pairs, IsKey p.1) ∧ (pairs.map Prod.fst).Nodup ∧ ∀ p ∈ pairs, raw p.1 ∉ seen := by
  fun_induction list seen input generalizing pairs with
  | case1 =>
    obtain rfl := Except.ok.inj read
    exact ⟨nofun, .nil, nofun⟩
  | case2 => cases read
  | case3 => cases read
  | case4 seen input c rest begins k v after next fresh ih =>
    obtain ⟨key, isKey, read⟩ := bind_ok read
    obtain ⟨value, -, read⟩ := bind_ok read
    obtain ⟨others, later, read⟩ := bind_ok read
    obtain rfl := Except.ok.inj read
    obtain ⟨keys, nodup, apart⟩ := ih later
    obtain rfl := eq_raw_of_text isKey
    have space : isSpace c = false := by
      have := List.head?_dropWhile_not isSpace input
      rwa [begins] at this
    refine ⟨List.forall_mem_cons.2 ⟨isKey_of_raw space (next?_key next), keys⟩,
      List.nodup_cons.2 ⟨fun m => ?_, nodup⟩, List.forall_mem_cons.2 ⟨fresh, fun p m => ?_⟩⟩
    · obtain ⟨p, mp, same⟩ := List.mem_map.1 m
      exact apart p mp (by rw [same]; exact List.mem_cons_self)
    · exact fun here => apart p m (List.mem_cons_of_mem _ here)

end Attributes

/-! ### Tags -/

theorem written_of_splitName {q : QName} {s : String} (isPrefix : q.nsPrefix = (splitName s).1)
    (isName : q.name = (splitName s).2) : q.written = s := by
  rw [QName.written, isPrefix, isName, splitName]
  have parts := List.takeWhile_append_dropWhile (p := fun c => c != ':') (l := s.toList)
  have stop := List.head?_dropWhile_not (fun c => c != ':') s.toList
  cases behind : s.toList.dropWhile (· != ':') with
  | nil => rfl
  | cons c rest =>
    rw [behind] at parts stop
    obtain rfl : c = ':' := by simpa using stop
    refine String.toList_injective (Eq.trans ?_ parts)
    simp [String.toList_append]

theorem declaredPrefix?_eq_some {key p : String} (declared : declaredPrefix? key = some p) :
    (key = "xmlns" ∧ p = "") ∨ key = "xmlns:" ++ p := by
  rw [declaredPrefix?] at declared
  split at declared
  · next isDefault => exact .inl ⟨isDefault, (Option.some.inj declared).symm⟩
  · split at declared
    · next starts =>
      obtain ⟨rest, parts⟩ := List.isPrefixOf_iff_prefix.1 starts
      refine .inr (String.toList_injective ?_)
      have dropped : ("xmlns:".toList ++ rest).drop 6 = rest := rfl
      rw [← Option.some.inj declared, String.toList_append, ← parts, dropped]
      exact congrArg ("xmlns:".toList ++ ·) String.toList_ofList.symm
    · cases declared

theorem length_ofAttributes (pairs : List (String × String)) :
    (Declarations.ofAttributes pairs).length +
      (pairs.filter fun p => (declaredPrefix? p.1).isNone).length = pairs.length := by
  induction pairs with
  | nil => rfl
  | cons p pairs ih =>
    rw [Declarations.ofAttributes] at ih ⊢
    rw [List.filterMap_cons, List.filter_cons]
    cases declaredPrefix? p.1 with
    | none => simpa [← Nat.add_assoc] using ih
    | some d =>
      simp only [Option.map_some, Option.isNone_some, List.length_cons, Bool.false_eq_true, if_false]
      omega

/-- A declaration is written under the key that it was read from, or under that of the default. -/
theorem Declarations.isKey_ofAttributes {pairs : List (String × String)}
    (keys : ∀ p ∈ pairs, IsKey p.1) {d : String × String} (m : d ∈ ofAttributes pairs) :
    IsKey (if d.1 = "" then "xmlns" else "xmlns:" ++ d.1) := by
  obtain ⟨p, mp, made⟩ := List.mem_filterMap.1 m
  obtain ⟨q, isDeclared, rfl⟩ := Option.map_eq_some_iff.1 made
  have default : IsKey "xmlns" := IsWrittenName.isKey (IsPlainName.written (by decide))
  split
  · exact default
  · next nonempty =>
    rcases declaredPrefix?_eq_some isDeclared with ⟨-, empty⟩ | key
    · exact absurd empty nonempty
    · exact key ▸ keys p mp

/-- What a tag is like that was read inside these open elements. -/
structure Tag.IsRead (scope : Scope) (t : Tag) : Prop where
  isName : IsTagName t.written
  keys : ∀ p ∈ t.pairs t.declarations, IsKey p.1
  undeclared : ∀ a ∈ t.attributes, declaredPrefix? a.written = none
  attributes_nodup : (t.attributes.map fun a => a.written).Nodup
  name : Scope.elementName (t.declarations :: scope) t.written = .ok t.toQName
  names : ∀ a ∈ t.attributes, Scope.attributeName (t.declarations :: scope) a.written = .ok a.toQName
  inScope : t.IsInScope scope

theorem Tag.IsRead.kept {scope : Scope} {t : Tag} (isRead : t.IsRead scope) :
    t.writtenDeclarations scope = t.declarations :=
  isRead.inScope.writtenDeclarations

namespace Scope

variable {scope : Scope} {name attributes : Raw} {t : Tag}

/-- A tag is written with as many keys as it was read from, under the name that it was read from. -/
theorem written_of_tag (read : scope.tag name attributes = .ok t) :
    name = raw t.written ∧ ∃ pairs, Attributes.list [] attributes = .ok pairs ∧
      pairs.length = (t.pairs t.declarations).length := by
  obtain ⟨pairs, written, listed, named, declared, element, others⟩ := tag_ok read
  obtain ⟨isPrefix, isName, -⟩ := elementName_ok element
  refine ⟨?_, pairs, listed, ?_⟩
  · rw [eq_raw_of_text named, ← written_of_splitName isPrefix isName]
  · rw [Tag.pairs, List.length_append, List.length_map, List.length_map, ← others.length_eq,
      declared, length_ofAttributes]

/-- The attributes of a tag have the keys that declare nothing, in their order. -/
theorem attributes_of_tag (read : scope.tag name attributes = .ok t) :
    ∃ pairs, Attributes.list [] attributes = .ok pairs ∧
      t.declarations = Declarations.ofAttributes pairs ∧
      List.Forall₂ (fun p a => p.1 = a.written ∧
        attributeName (t.declarations :: scope) a.written = .ok a.toQName)
        (pairs.filter fun p => (declaredPrefix? p.1).isNone) t.attributes := by
  obtain ⟨pairs, -, listed, -, declared, -, others⟩ := tag_ok read
  refine ⟨pairs, listed, declared, others.imp fun p a read => ?_⟩
  obtain ⟨isPrefix, isName, -⟩ := attributeName_ok read.1
  have same : a.written = p.1 := written_of_splitName isPrefix isName
  exact ⟨same.symm, same ▸ read.1⟩

theorem isRead_of_tag (blankFree : ∀ a ∈ name, isSpace a = false)
    (head : ∀ a ∈ name.head?, a ≠ some '!' ∧ a ≠ some '?' ∧ a ≠ some '/')
    (read : scope.tag name attributes = .ok t) : t.IsRead scope := by
  obtain ⟨rfl, -⟩ := written_of_tag read
  have inScope := isInScope_of_tag read
  obtain ⟨-, written, -, named, -, element, -⟩ := tag_ok read
  obtain rfl : String.ofList t.written.toList = written :=
    Except.ok.inj ((Attributes.text_raw _).symm.trans named)
  rw [String.ofList_toList] at element
  obtain ⟨pairs, listed, declared, origin⟩ := attributes_of_tag read
  obtain ⟨keys, nodup, -⟩ := Attributes.list_ok listed
  have found {a : Attribute} (m : a ∈ t.attributes) := exists_of_forall₂_right origin m
  refine ⟨isTagName_of_raw blankFree head, fun p m => ?_, fun a m => ?_, ?_, element, fun a m => ?_,
    inScope⟩
  · rcases List.mem_append.1 m with m | m
    · obtain ⟨d, md, rfl⟩ := List.mem_map.1 m
      exact Declarations.isKey_ofAttributes keys (declared ▸ md)
    · obtain ⟨a, ma, rfl⟩ := List.mem_map.1 m
      obtain ⟨p, mp, same, -⟩ := found ma
      simpa [← same] using keys p (List.mem_filter.1 mp).1
  · obtain ⟨p, mp, same, -⟩ := found m
    rw [← same]
    exact Option.isNone_iff_eq_none.1 (List.mem_filter.1 mp).2
  · have same : (pairs.filter fun p => (declaredPrefix? p.1).isNone).map Prod.fst =
        t.attributes.map fun a => a.written := by
      rw [← List.forall₂_eq_eq_eq, List.forall₂_map_left_iff, List.forall₂_map_right_iff]
      exact origin.imp fun _ _ => And.left
    rw [← same]
    exact nodup.sublist (List.filter_sublist.map Prod.fst)
  · obtain ⟨-, -, -, named⟩ := found m
    exact named

end Scope

theorem Tag.IsRead.tag_written {scope : Scope} {t : Tag} (isRead : t.IsRead scope)
    (declared : (t.declarations.map Prod.fst).Nodup) :
    scope.tag (raw t.written) ((writePairs (t.pairs t.declarations)).map some) = .ok t :=
  Scope.tag_of_pairs isRead.undeclared isRead.keys
    (Tag.nodup_pairs isRead.undeclared declared isRead.attributes_nodup) isRead.name isRead.names

end XRoad.Xml
