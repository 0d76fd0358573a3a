import CachePurge.Json.Read
import CachePurge.Json.Record
import Mathlib.Data.List.Basic

/-!
JSON text read back. A quoted string is read as what was written, whatever follows it, and so are
the members of an object if their values are.
-/

namespace CachePurge.Json

/-- The escape of a control character by its number is read as that number. -/
theorem readHex_control {n : Nat} (control : n < 32) (rest : List Char) :
    readHex ('0' :: '0' :: Hex.digit (n / 16) :: Hex.digit n :: rest) = .ok (n, rest) := by
  have value : ∀ n < 32, Hex.toNat? ['0', '0', Hex.digit (n / 16), Hex.digit n] = some n := by
    decide
  have long : ¬(('0' :: '0' :: Hex.digit (n / 16) :: Hex.digit n :: rest).flatMap
      String.utf8EncodeChar).length < 4 := by
    simp only [List.flatMap_cons, List.length_append, String.length_utf8EncodeChar]
    have first := Char.utf8Size_pos (Hex.digit (n / 16))
    have second := Char.utf8Size_pos (Hex.digit n)
    have zero : '0'.utf8Size = 1 := by decide
    omega
  rw [readHex, if_neg long]
  simp only [value n control]

theorem readEscape_control {c : Char} (control : c.toNat < 32) (rest : List Char) :
    readEscape ('u' :: '0' :: '0' :: Hex.digit (c.toNat / 16) :: Hex.digit c.toNat :: rest) =
      .ok (c, rest) := by
  change readUnit _ = _
  have plain : c.toNat < 0xd800 ∨ 0xdbff < c.toNat := .inl (by omega)
  have alone : ¬(0xdc00 ≤ c.toNat ∧ c.toNat ≤ 0xdfff) := by omega
  rw [readUnit, readHex_control control]
  change (if _ then _ else if _ then _ else _) = _
  rw [if_neg alone, if_pos plain, Char.ofNat_toNat]

/-- What is read of an escaped character is the character, in front of what is read after it. -/
theorem readChars_escape {bound : Nat} {text cs rest : List Char} (c : Char)
    (read : readChars bound text = .ok (cs, rest)) :
    readChars (bound + 1) (escape c ++ text) = .ok (c :: cs, rest) := by
  have short (e : List Char) (own : readEscape (e ++ text) = .ok (c, text)) :
      readChars (bound + 1) ('\\' :: e ++ text) = .ok (c :: cs, rest) := by
    rw [List.cons_append, readChars, own]
    change (readChars bound text >>= _) = _
    rw [read]
    rfl
  have named (e : List Char) (letter : Char) (own : c = letter)
      (known : readEscape (e ++ text) = .ok (letter, text)) :
      readChars (bound + 1) ('\\' :: e ++ text) = .ok (c :: cs, rest) :=
    short e (own ▸ known)
  rw [escape]
  split
  · next own => exact named ['"'] _ own rfl
  next quote =>
  split
  · next own => exact named ['\\'] _ own rfl
  next backslash =>
  split
  · next own => exact named ['n'] _ own rfl
  split
  · next own => exact named ['r'] _ own rfl
  split
  · next own => exact named ['t'] _ own rfl
  split
  · next own => exact named ['b'] _ own rfl
  split
  · next own => exact named ['f'] _ own rfl
  split
  · next control => exact short _ (readEscape_control control text)
  next plain =>
  rw [List.singleton_append, readChars, if_neg plain, read]
  · rfl
  · exact quote
  · exact backslash

theorem length_le_escape (cs rest : List Char) :
    cs.length + rest.length ≤ (cs.foldr (fun c t => escape c ++ t) rest).length := by
  induction cs with
  | nil => exact Nat.le_of_eq (Nat.zero_add _)
  | cons c cs ih =>
      have some_ : 0 < (escape c).length := by
        rw [escape]
        repeat' split
        all_goals exact Nat.succ_pos _
      rw [List.foldr_cons, List.length_append, List.length_cons]
      omega

theorem readChars_foldr {cs rest : List Char} {bound : Nat} (enough : cs.length < bound) :
    readChars bound (cs.foldr (fun c t => escape c ++ t) ('"' :: rest)) = .ok (cs, rest) := by
  induction cs generalizing bound with
  | nil =>
      cases bound with
      | zero => cases enough
      | succ bound => rfl
  | cons c cs ih =>
      cases bound with
      | zero => cases enough
      | succ bound => exact readChars_escape c (ih (Nat.succ_lt_succ_iff.mp enough))

/-- A quoted string is read as what it quotes, up to its closing quote. -/
theorem exists_writeString (text : String) (rest : List Char) :
    ∃ body, writeString text rest = '"' :: body ∧ readString body = .ok (text, rest) := by
  refine ⟨_, rfl, ?_⟩
  have enough := Nat.le_of_add_right_le (length_le_escape text.toList ('"' :: rest))
  rw [readString, readChars_foldr (Nat.lt_succ_of_le enough)]
  change Except.ok (String.ofList text.toList, rest) = _
  rw [String.ofList_toList]

theorem readValue_string (depth : Nat) (text : String) (rest : List Char) :
    readValue depth (write (.string text) rest) = .ok (.string text, rest) := by
  obtain ⟨body, written, read⟩ := exists_writeString text rest
  rw [write, written, readValue]
  change (readString body).map _ = _
  rw [read]
  rfl

section Members
variable {item : List Char → Except Stop (Json × List Char)} {members : List (String × Json)}

theorem readMember_writeString (name : String) {value : Json}
    {others : List Char → Except Stop (List (String × Json) × List Char)} {after rest : List Char}
    (first : ∀ after, item (value.write after) = .ok (value, after))
    (later : others after = .ok (members, rest)) :
    ∃ body, writeString name (':' :: value.write after) = '"' :: body ∧
      readMember item others body = .ok ((name, value) :: members, rest) := by
  obtain ⟨body, written, read⟩ := exists_writeString name (':' :: value.write after)
  refine ⟨body, written, ?_⟩
  rw [readMember, read]
  change (item (value.write after) >>= _) = _
  rw [first]
  change (others after >>= _) = _
  rw [later]
  rfl

/-- Members whose values are read back are read back as well, up to the closing brace. -/
theorem readMembers_writeMembers
    (values : ∀ m ∈ members, ∀ after, item (m.2.write after) = .ok (m.2, after))
    {bound : Nat} (enough : members.length < bound) (rest : List Char) :
    readMembers item bound false (writeMembers members ('\x7d' :: rest)) = .ok (members, rest) := by
  induction members generalizing bound with
  | nil =>
      cases bound with
      | zero => cases enough
      | succ bound =>
          rw [readMembers]
          rfl
  | cons m members ih =>
      obtain ⟨name, value⟩ := m
      obtain ⟨first, others⟩ := List.forall_mem_cons.mp values
      cases bound with
      | zero => cases enough
      | succ bound =>
          obtain ⟨body, written, read⟩ := readMember_writeString name first
            (ih others (Nat.succ_lt_succ_iff.mp enough))
          rw [writeMembers, written, readMembers]
          exact read

end Members

theorem length_le_writeString (text : String) (rest : List Char) :
    rest.length ≤ (writeString text rest).length := by
  have body := length_le_escape text.toList ('"' :: rest)
  rw [List.length_cons] at body
  rw [writeString, List.length_cons]
  omega

theorem length_lt_member (name text : String) (after : List Char) :
    after.length < (writeString name (':' :: write (.string text) after)).length := by
  have named := length_le_writeString name (':' :: writeString text after)
  exact Nat.lt_of_le_of_lt (length_le_writeString text after) named

theorem length_le_writeMembers (texts : List (String × String)) (rest : List Char) :
    texts.length ≤ (writeMembers (textMembers texts) rest).length := by
  induction texts with
  | nil => exact Nat.zero_le _
  | cons t texts ih =>
      have longer := length_lt_member t.1 t.2 (writeMembers (textMembers texts) rest)
      exact Nat.succ_le_succ (Nat.le_trans ih (Nat.le_of_lt longer))

theorem readValue_object (depth : Nat) (s : List Char) : readValue (depth + 1) ('\x7b' :: s) =
    (readMembers (readValue depth) (s.length + 1) true s).map fun (members, s) =>
      (.object members, s) := by
  rw [readValue]
  rfl

theorem readValue_ofTexts (depth : Nat) (texts : List (String × String)) :
    readValue (depth + 1) ((ofTexts texts).write []) = .ok (ofTexts texts, []) := by
  cases texts with
  | nil =>
      change readValue (depth + 1) ['\x7b', '\x7d'] = _
      rw [readValue_object, readMembers]
      rfl
  | cons t texts =>
      obtain ⟨name, text⟩ := t
      have values : ∀ m ∈ textMembers texts, ∀ after,
          readValue depth (m.2.write after) = .ok (m.2, after) := by
        intro m inside after
        obtain ⟨t, -, rfl⟩ := List.mem_map.mp inside
        exact readValue_string depth t.2 after
      have long := Nat.lt_of_le_of_lt (length_le_writeMembers texts ['\x7d'])
        (length_lt_member name text (writeMembers (textMembers texts) ['\x7d']))
      have later := readMembers_writeMembers values (by rwa [textMembers, List.length_map]) []
      obtain ⟨body, written, read⟩ :=
        readMember_writeString name (readValue_string depth text) later
      change readValue (depth + 1) ('\x7b' :: writeString name
        (':' :: write (.string text) (writeMembers (textMembers texts) ['\x7d']))) = _
      rw [readValue_object, readMembers, written]
      change (readMember _ _ body).map _ = _
      rw [← written, read]
      rfl

/-- The text of an object of texts is read as that object, names that are repeated included. -/
theorem parse_render_ofTexts (texts : List (String × String)) :
    parse (render (ofTexts texts)) = .ok (ofTexts texts) := by
  rw [parse, render, String.toList_ofList, maxDepth, readValue_ofTexts]
  rfl

end CachePurge.Json
