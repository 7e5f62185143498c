import Calculator.Proofs.Answer.JsonNumber
import Calculator.Proofs.Answer.JsonString
import Calculator.Proofs.Answer.Query
import Calculator.Proofs.Token.Tokenization

/-! # Bodies of answers

A record that is written by the rules is a JSON object on one line from which it can be read back,
member by member. So an answer can be read back from its body: the equation character for character
and the result bit for bit, or the message of a failure. A result is never missing from its body,
since evaluation ends in finite numbers only.
-/

namespace Calculator

/-- What a member holds, as a JSON value. -/
def Field.json : Field → Json
  | text content => .string content
  | number value => .number value

/-- Whether what a member holds can be written. -/
def Field.IsFinite : Field → Prop
  | text _ => True
  | number value => value.isFinite = true

namespace Json

section Members

variable {key : String} {text rest more : List Char} {json : Json} {field : Field}
  {record : Record} {entries : List (String × Json)} {writer : JsonWriter}

theorem length_le_of_value {first : Char} (read : Takes value (skip text) json (first :: rest)) :
    rest.length ≤ text.length :=
  have ⟨shorter, _⟩ := read
  Nat.le_of_succ_le (Nat.le_trans shorter (length_skip_le text))

theorem decode_of_value {body : String} (read : Takes value (skip body.toList) json []) :
    decode body = some json := by
  obtain ⟨_, read⟩ := read
  rw [decode, read]
  rfl

/-- A record that is not empty starts with the name of its first member. -/
theorem next_record (writer : JsonWriter) (some : record ≠ []) (rest : List Char) :
    ∃ behind, next (List.intercalate [','] (record.map writer.member) ++ rest) =
      Option.some ('"', behind) := by
  match record with
  | [member] =>
    rw [List.map_singleton, List.intercalate_singleton, JsonWriter.member, List.append_assoc,
      string_append, next_cons rfl]
    exact ⟨_, rfl⟩
  | member :: second :: record =>
    rw [List.map_cons, List.map_cons, List.intercalate_cons_cons, JsonWriter.member,
      List.append_assoc, List.append_assoc, List.append_assoc, string_append, next_cons rfl]
    exact ⟨_, rfl⟩

variable (lawful : writer.Lawful)

include lawful

/-- The last member of an object is read up to the closing brace. -/
theorem members_last (read : Takes value (skip text) json ('\x7d' :: rest)) :
    Takes members (writer.string key ++ ':' :: text) [(key, json)] rest := by
  have bound := length_le_of_value read
  obtain ⟨_, read⟩ := read
  obtain ⟨shorter, quoted⟩ := characters_flatMap lawful key.toList (':' :: text)
  rw [Takes, string_append, members, next_cons rfl]
  refine ⟨Nat.le_succ_of_le (Nat.le_trans bound (Nat.le_of_succ_le shorter)), ?_⟩
  simp only [quoted, next_cons (show isSpace ':' = false from rfl), Option.bind_eq_bind,
    Option.bind_some, Option.pure_def, if_true, read, String.ofList_toList,
    next_cons (show isSpace '\x7d' = false from rfl)]

/-- A member that another one follows is read up to the comma. -/
theorem members_more (read : Takes value (skip text) json (',' :: more))
    (behind : Takes members more entries rest) :
    Takes members (writer.string key ++ ':' :: text) ((key, json) :: entries) rest := by
  have bound := length_le_of_value read
  obtain ⟨_, read⟩ := read
  obtain ⟨shorter, behind⟩ := behind
  obtain ⟨shorter', quoted⟩ := characters_flatMap lawful key.toList (':' :: text)
  have separates : (',' : Char) ≠ '\x7d' := by decide
  rw [Takes, string_append, members, next_cons rfl]
  refine ⟨Nat.le_succ_of_le (Nat.le_trans (Nat.le_trans shorter bound)
    (Nat.le_of_succ_le shorter')), ?_⟩
  simp only [quoted, next_cons (show isSpace ':' = false from rfl), Option.bind_eq_bind,
    Option.bind_some, Option.pure_def, if_true, read, String.ofList_toList,
    next_cons (show isSpace ',' = false from rfl), separates, if_false, behind]

/-- What a member holds is read up to what ends it. -/
theorem value_field (finite : field.IsFinite) (ends : rest.head?.any goesOn = false) :
    Takes value (skip (writer.field field ++ rest)) field.json rest := by
  cases field with
  | text content =>
    rw [JsonWriter.field, string_append, skip_cons rfl, ← string_append]
    exact value_string lawful content rest
  | number x =>
    have number := numeral_isNumeral finite (lawful.finite finite) ends
    rw [JsonWriter.field, skip_of_numeral number]
    exact value_of_numeral number

/-- The members of a record are read one by one up to the closing brace. -/
theorem members_record (finite : ∀ member ∈ record, member.2.IsFinite) (some : record ≠ [])
    (rest : List Char) :
    Takes members (List.intercalate [','] (record.map writer.member) ++ '\x7d' :: rest)
      (record.map fun member => (member.1, member.2.json)) rest := by
  induction record with
  | nil => exact absurd rfl some
  | cons member record ih =>
    obtain ⟨here, behind⟩ := List.forall_mem_cons.mp finite
    cases record with
    | nil =>
      rw [List.map_singleton, List.map_singleton, List.intercalate_singleton, JsonWriter.member,
        List.append_assoc, List.cons_append]
      exact members_last lawful (value_field lawful here rfl)
    | cons second record =>
      have more := ih behind (List.cons_ne_nil _ _)
      rw [List.map_cons, List.map_cons] at more ⊢
      rw [List.map_cons, List.intercalate_cons_cons, JsonWriter.member, List.append_assoc,
        List.append_assoc, List.append_assoc, List.cons_append, List.singleton_append]
      exact members_more lawful (value_field lawful here rfl) more

/-- A record is read back from its object. -/
theorem decode_object (finite : ∀ member ∈ record, member.2.IsFinite) :
    decode (writer.object record) =
      some (.object (record.map fun member => (member.1, member.2.json))) := by
  apply decode_of_value
  rw [JsonWriter.object, String.toList_ofList, List.cons_append, skip_cons rfl]
  by_cases empty : record = []
  · subst empty
    refine ⟨Nat.zero_le _, ?_⟩
    rw [List.map_nil, List.intercalate_nil, List.nil_append, value, next_cons rfl]
    rfl
  · obtain ⟨shorter, read⟩ := members_record lawful finite empty []
    obtain ⟨_, opens⟩ := next_record writer empty ['\x7d']
    have member : ('"' : Char) ≠ '\x7d' := by decide
    refine ⟨Nat.zero_le _, ?_⟩
    rw [value, opens]
    simp only [read, member, if_false, Option.bind_eq_bind, Option.bind_some, Option.pure_def]

end Members

end Json

/-- The bytes of a character that is no control character are none either. -/
theorem visible_utf8EncodeChar {c : Char} (visible : 0x20 ≤ c.toNat) :
    ∀ byte ∈ String.utf8EncodeChar c, 0x20 ≤ byte.toNat := by
  have large : ∀ low high : UInt8, 0x20 ≤ high.toNat → 0x20 ≤ (low ||| high).toNat := by
    intro low high bound
    rw [UInt8.toNat_or]
    exact Nat.le_trans bound Nat.right_le_or
  rcases c.utf8Size_eq with size | size | size | size
  · have ascii : c.toNat ≤ 127 := Char.utf8Size_eq_one_iff.mp size
    rw [String.utf8EncodeChar_eq_singleton size, List.forall_mem_singleton, UInt32.toNat_toUInt8]
    exact visible.trans_eq (Nat.mod_eq_of_lt (Nat.lt_of_le_of_lt ascii (by decide))).symm
  · rw [String.utf8EncodeChar_eq_cons_cons size]
    simp only [List.forall_mem_cons]
    exact ⟨large _ _ (by decide), large _ _ (by decide), List.forall_mem_nil _⟩
  · rw [String.utf8EncodeChar_eq_cons_cons_cons size]
    simp only [List.forall_mem_cons]
    exact ⟨large _ _ (by decide), large _ _ (by decide), large _ _ (by decide),
      List.forall_mem_nil _⟩
  · rw [String.utf8EncodeChar_eq_cons_cons_cons_cons size]
    simp only [List.forall_mem_cons]
    exact ⟨large _ _ (by decide), large _ _ (by decide), large _ _ (by decide),
      large _ _ (by decide), List.forall_mem_nil _⟩

theorem IsNumeric.visible {c : Char} (numeric : IsNumeric c) : 0x20 ≤ c.toNat := by
  have signs : ∀ c ∈ ['-', '+', '.', 'e'], 0x20 ≤ c.toNat := by simp
  rcases numeric with digit | sign
  · exact Nat.le_trans (by decide) (Char.isDigit_iff_toNat.mp digit).1
  · exact signs c sign

namespace JsonWriter

variable {writer : JsonWriter} {field : Field} {record : Record} (lawful : writer.Lawful)

include lawful

theorem visible_field (finite : field.IsFinite) : ∀ c ∈ writer.field field, 0x20 ≤ c.toNat := by
  cases field with
  | text content => exact Json.visible_string lawful content
  | number x => exact fun c member => ((lawful.finite finite).isNumeric c member).visible

theorem visible_member {member : String × Field} (finite : member.2.IsFinite) :
    ∀ c ∈ writer.member member, 0x20 ≤ c.toNat :=
  List.forall_mem_append.mpr ⟨Json.visible_string lawful _,
    List.forall_mem_cons.mpr ⟨by decide, visible_field lawful finite⟩⟩

/-- No control character is left in an object. -/
theorem visible_object (finite : ∀ member ∈ record, member.2.IsFinite) :
    ∀ c ∈ (writer.object record).toList, 0x20 ≤ c.toNat := by
  rw [object, String.toList_ofList]
  refine List.forall_mem_cons.mpr ⟨by decide, List.forall_mem_append.mpr ⟨?_, by simp⟩⟩
  induction record with
  | nil => exact List.forall_mem_nil _
  | cons first record ih =>
    obtain ⟨here, behind⟩ := List.forall_mem_cons.mp finite
    have seen := visible_member lawful here
    cases record with
    | nil =>
      rw [List.map_singleton, List.intercalate_singleton]
      exact seen
    | cons second record =>
      rw [List.map_cons, List.map_cons, List.intercalate_cons_cons]
      exact List.forall_mem_append.mpr
        ⟨List.forall_mem_append.mpr ⟨seen, by simp⟩, ih behind⟩

end JsonWriter

namespace Answer

open Json Text

variable {serialize : Serializer} {answer : Answer}

/-- Whether an answer is sent as the JSON object with these members, on one line. -/
def SentAs (serialize : Serializer) (answer : Answer) (members : List (String × Json)) : Prop :=
  ∃ body, answer.toJson serialize = .ok body ∧ answer.line serialize = body ∧
    (∀ byte ∈ utf8 body.toList, 0x20 ≤ byte.toNat) ∧ decode body = some (.object members)

/-- An answer without infinities and NaN is sent as its record. -/
theorem sentAs_record (writes : serialize.WritesJson)
    (finite : ∀ member ∈ answer.record, member.2.IsFinite) :
    SentAs serialize answer (answer.record.map fun member => (member.1, member.2.json)) := by
  obtain ⟨writer, lawful, written⟩ := writes
  have success : answer.toJson serialize = .ok (writer.object answer.record) := written _
  refine ⟨_, success, ?_, ?_, decode_object lawful finite⟩
  · rw [line, success]
  · intro byte member
    obtain ⟨c, inside, encoded⟩ := List.mem_flatMap.mp member
    exact visible_utf8EncodeChar (JsonWriter.visible_object lawful finite c inside) byte encoded

theorem sentAs_failure (writes : serialize.WritesJson) (status : Nat) (message : String) :
    SentAs serialize (failure status message) [("error", .string message)] :=
  sentAs_record writes (List.forall_mem_singleton.mpr trivial)

theorem sentAs_solution (writes : serialize.WritesJson) {result : Float}
    (finite : result.isFinite = true) (equation : String) :
    SentAs serialize (solution equation result)
      [("equation", .string equation), ("result", .number result)] :=
  sentAs_record writes (List.forall_mem_cons.mpr ⟨trivial, List.forall_mem_singleton.mpr finite⟩)

/-- Whatever serializer writes JSON, the body of an answer loses nothing of it: a value is sent with
its equation, both as they are, and everything else as the message that says why there is none. -/
theorem body_loses_nothing (writes : serialize.WritesJson) (limits : Limits) :
    ((ofQuery limits none).isSuccess = false ∧
      SentAs serialize (ofQuery limits none)
        [("error", .string "Missing or invalid 'equation' parameter.")]) ∧
    (∀ equation, Blank equation →
      (ofQuery limits (some equation)).isSuccess = false ∧
      SentAs serialize (ofQuery limits (some equation))
        [("error", .string "Missing or invalid 'equation' parameter.")]) ∧
    (∀ equation value, solve limits equation = .ok value →
      (ofQuery limits (some equation)).isSuccess = true ∧
      SentAs serialize (ofQuery limits (some equation))
        [("equation", .string equation), ("result", .number value)]) ∧
    (∀ equation fault, solve limits equation = .error fault → ¬ Blank equation →
      (ofQuery limits (some equation)).isSuccess = false ∧
      SentAs serialize (ofQuery limits (some equation)) [("error", .string fault.message)]) ∧
    ∀ status message,
      SentAs serialize (failure status message) [("error", .string message)] := by
  refine ⟨⟨rfl, sentAs_failure writes ..⟩, fun equation blank => ?_,
    fun equation value solved => ?_, fun equation fault failed visible => ?_,
    sentAs_failure writes⟩
  · rw [ofQuery_of_blank blank]
    exact ⟨rfl, sentAs_failure writes ..⟩
  · rw [ofQuery_of_ok solved]
    exact ⟨rfl, sentAs_solution writes (isFinite_of_solve solved) equation⟩
  · rw [ofQuery_of_error failed visible]
    exact ⟨rfl, sentAs_failure writes ..⟩

/-- A product that is negative zero is sent as such beside an equation with a tab; a quote that
cannot be read comes back in the message. -/
theorem body_loses_nothing_of_signed_zero :
    (solve {} "0\t*-3" = .ok (-0.0) ∧ (-0.0 : Float).toBits ≠ (0.0 : Float).toBits ∧
      (ofQuery {} (some "0\t*-3")).isSuccess = true ∧
      (ofQuery {} (some "0\t*-3")).body =
        "\x7b\"equation\":\"0\\t*-3\",\"result\":-0.0\x7d" ∧
      SentAs Serializer.json (ofQuery {} (some "0\t*-3"))
        [("equation", .string "0\t*-3"), ("result", .number (-0.0))]) ∧
    ((ofQuery {} (some "\"")).isSuccess = false ∧
      SentAs Serializer.json (ofQuery {} (some "\""))
        [("error", .string "unexpected character '\"' at position 0")]) := by
  have solved : solve {} "0\t*-3" = .ok (-0.0) := by decide +kernel
  have failed : solve {} "\"" = .error (.scan (.unexpectedCharacter '"' ⟨0, 1⟩)) := by
    decide +kernel
  obtain ⟨-, -, values, faults, -⟩ := body_loses_nothing Serializer.writesJson_json {}
  obtain ⟨success, sent⟩ := values _ _ solved
  have message : Fault.message (.scan (.unexpectedCharacter '"' ⟨0, 1⟩)) =
      "unexpected character '\"' at position 0" := by decide +kernel
  refine ⟨⟨solved, by decide +kernel, success, by decide +kernel, sent⟩, ?_⟩
  rw [← message]
  exact faults _ _ failed (by decide +kernel)

end Answer

end Calculator
