import XRoad.Proofs.Xml.Markup

/-!
# Written text

How reading goes on over written text. Where a run of text is cut into tokens makes no difference,
so text is read a character at a time. Main statement: `Reading.run_escapeContent`.
-/

namespace XRoad.Xml

open Text (Raw)
open Token (raw)

theorem appendText_append (ns : List Node) (s t : String) :
    appendText t (appendText s ns) = appendText (s ++ t) ns := by
  fun_induction appendText s ns with
  | case1 => rfl
  | case2 u => simp [appendText, String.append_assoc]
  | case3 n rest notText ih =>
    have nonempty : appendText s rest ≠ [] := by
      fun_cases appendText s rest <;> simp
    rw [appendText, ih, appendText]
    · exact fun u e rest_eq => notText u e rest_eq
    · exact fun u e rest_eq => nonempty rest_eq

/-! ### Layout -/

theorem Node.not_isBlank_of_isElement {n : Node} (isElement : n.isElement) : !n.isBlank := by
  cases n with
  | text => cases isElement
  | element => rfl

namespace Element

theorem dropLayout_eq (e : Element) :
    e.dropLayout =
      if e.hasChildElements then { e with children := e.children.filter (!·.isBlank) } else e := by
  unfold dropLayout
  refine if_congr Iff.rfl ?_ rfl
  refine congrArg (Element.mk e.tag) (List.filter_congr fun n _ => ?_)
  cases n <;> rfl

theorem dropLayout_tag (e : Element) : e.dropLayout.tag = e.tag := by
  rw [dropLayout]
  split <;> rfl

theorem mem_of_mem_dropLayout {e : Element} {n : Node} (m : n ∈ e.dropLayout.children) :
    n ∈ e.children := by
  rw [dropLayout_eq] at m
  split at m
  · exact (List.mem_filter.1 m).1
  · exact m

end Element

/-! ### Tokens one at a time -/

namespace Token

theorem list_of_next? {opened opened' : List Raw} {input rest : Raw} {token : Token}
    (nonempty : input ≠ []) (next : next? input = some (token, rest))
    (fits : opened? opened token = some opened') :
    list opened input = token :: list opened' rest := by
  obtain ⟨c, tail, rfl⟩ := List.exists_cons_of_ne_nil nonempty
  rw [list.eq_def]
  simp only
  split
  · next e =>
    rw [next] at e
    cases e
  · next e =>
    rw [next] at e
    obtain ⟨rfl, rfl⟩ := Prod.mk.inj (Option.some.inj e)
    simp only [fits]

theorem list_nil (opened : List Raw) : list opened [] = [] := by
  rw [list.eq_def]

/-- No markup and no reference begins with this character. -/
def isTextChar (c : Char) : Bool :=
  c != '<' && c != '&'

theorem next?_text {c : Char} (plain : isTextChar c) (cs : List Char) :
    next? ((c :: cs).map some) =
      some (.text ((c :: cs.takeWhile isTextChar).map some), (cs.dropWhile isTextChar).map some) := by
  have here : (some c != some '<' && some c != some '&') = true := by
    simpa [isTextChar] using plain
  rw [List.map_cons, next?.eq_def]
  split
  · next e =>
    injection e with e
    rw [Option.some.inj e] at plain
    exact absurd plain (by decide)
  · next e =>
    injection e with e
    rw [Option.some.inj e] at plain
    exact absurd plain (by decide)
  · simp only [List.takeWhile_cons, List.dropWhile_cons, here, if_true, List.takeWhile_map,
      List.dropWhile_map, List.map_cons]
    rfl

theorem next?_reference {name : List Char}
    (plain : ∀ c ∈ name, c ≠ ';' ∧ c ≠ '&' ∧ c ≠ '<') (rest : Raw) :
    next? (some '&' :: (name.map some ++ some ';' :: rest)) =
      some (.reference (name.map some), rest) := by
  have all : ∀ a ∈ name.map some,
      (!(decide (a = some ';' ∨ a = some '&' ∨ a = some '<'))) = true :=
    forall_mem_map_some (p := fun a => !(decide (a = some ';' ∨ a = some '&' ∨ a = some '<')))
      fun c m => by simp [plain c m]
  change reference? _ = _
  simp only [reference?]
  rw [dropWhile_append_stop _ all rfl, takeWhile_append_stop _ all rfl]
  rfl

end Token

namespace Reading

open Token (list)

variable {r : Reading} {e : Element} {outer : List Element} {opened : List Raw}

theorem run_cons (r : Reading) (token : Token) (tokens : List Token) :
    r.run (token :: tokens) = r.step token >>= fun r => r.run tokens :=
  List.foldlM_cons

theorem run_next? {opened' : List Raw} {input rest : Raw} {token : Token} (r : Reading)
    (nonempty : input ≠ []) (next : Token.next? input = some (token, rest))
    (fits : Token.opened? opened token = some opened') :
    r.run (list opened input) = r.step token >>= fun r => r.run (list opened' rest) := by
  rw [Token.list_of_next? nonempty next fits, run_cons]

theorem run_of_next? {opened' : List Raw} {input rest : Raw} {token : Token} {r' : Reading}
    (nonempty : input ≠ []) (next : Token.next? input = some (token, rest))
    (fits : Token.opened? opened token = some opened') (step : r.step token = .ok r') :
    r.run (list opened input) = r'.run (list opened' rest) := by
  rw [run_next? r nonempty next fits, step]
  rfl

def push (r : Reading) (cs : List Char) : Reading :=
  match r.opened with
  | [] => r
  | e :: outer => { r with opened := e.pushText (String.ofList cs) :: outer }

theorem push_push (r : Reading) (cs ds : List Char) : (r.push cs).push ds = r.push (cs ++ ds) := by
  obtain ⟨opened, scope, root⟩ := r
  cases opened with
  | nil => rfl
  | cons e outer => simp [push, Element.pushText, appendText_append, String.ofList_append]

theorem step_text (r : Reading) (cs : List Char) :
    r.step (.text (cs.map some)) = .ok (r.push cs) := by
  rw [step, Attributes.text_raw, addText, push]
  cases r.opened <;> rfl

/-- A character of text is read alike whether or not more text follows it. -/
theorem run_char {c : Char} (plain : Token.isTextChar c) (cs : List Char) :
    r.run (list opened ((c :: cs).map some)) = (r.push [c]).run (list opened (cs.map some)) := by
  -- The token is as long as it can be: cut it after its first character.
  rw [run_of_next? (by simp) (Token.next?_text plain cs) rfl (step_text r _)]
  cases cs with
  | nil => rfl
  | cons d cs =>
    by_cases more : Token.isTextChar d
    · rw [run_of_next? (by simp) (Token.next?_text more cs) rfl (step_text _ _), push_push,
        List.takeWhile_cons, if_pos more, List.dropWhile_cons, if_pos more]
      rfl
    · rw [List.takeWhile_cons, if_neg more, List.dropWhile_cons, if_neg more]

theorem entityOf?_read {c : Char} {name : String} (known : entityOf? c = some name) :
    referenceText (raw name) = .ok (String.ofList [c]) := by
  unfold entityOf? at known
  split at known
  case h_6 => cases known
  all_goals
    injection known with known
    subst known
    rfl

theorem run_reference {c : Char} {name : String} (known : entityOf? c = some name)
    (cs : List Char) :
    r.run (list opened (('&' :: (name.toList ++ ';' :: cs)).map some)) =
      (r.push [c]).run (list opened (cs.map some)) := by
  have plain : ∀ d ∈ name.toList, d ≠ ';' ∧ d ≠ '&' ∧ d ≠ '<' := by
    intro d m
    have other := entityOf?_chars known d m
    simp only [List.mem_cons, List.not_mem_nil, or_false, not_or] at other
    exact other.2
  have step : r.step (.reference (name.toList.map some)) = .ok (r.push [c]) := by
    rw [Reading.step, ← raw, entityOf?_read known, addText, push]
    cases r.opened <;> rfl
  have next := Token.next?_reference plain (cs.map some)
  rw [← List.map_cons, ← List.map_append, ← List.map_cons] at next
  exact run_of_next? (by simp) next rfl step

theorem run_contentChar (c : Char) (cs : List Char) :
    r.run (list opened ((escapeContent [c] ++ cs).map some)) =
      (r.push [c]).run (list opened (cs.map some)) := by
  rw [escapeContent, List.flatMap_cons, List.flatMap_nil, List.append_nil]
  split
  · next quote =>
    refine run_char ?_ cs
    rcases quote with rfl | rfl <;> decide
  · rw [escapeChar]
    split
    · next name known =>
      have read : r.run (list opened (('&' :: (name.toList ++ ';' :: cs)).map some)) =
          (r.push [c]).run (list opened (cs.map some)) := run_reference known cs
      simpa using read
    · next unknown =>
      obtain ⟨lt, -, amp, -⟩ := entityOf?_eq_none unknown
      exact run_char (by simp [Token.isTextChar, lt, amp]) cs

/-- Written text is read back, whatever follows it. -/
theorem run_escapeContent {cs : List Char} (nonempty : cs ≠ []) (more : List Char) :
    r.run (list opened ((escapeContent cs ++ more).map some)) =
      (r.push cs).run (list opened (more.map some)) := by
  induction cs generalizing r with
  | nil => exact absurd rfl nonempty
  | cons c cs ih =>
    have parts : escapeContent (c :: cs) ++ more = escapeContent [c] ++ (escapeContent cs ++ more) := by
      simp [escapeContent]
    rw [parts, run_contentChar]
    by_cases last : cs = []
    · subst last
      rfl
    · rw [ih last, push_push]
      rfl

end Reading

end XRoad.Xml
