import Mathlib.Data.List.Basic

/-!
# The vocabulary of the update service

`update_service.hpp` works on `std::string`s and on D-Bus property maps, and it writes
`redfish::messages` into HTTP responses and task logs.  This file fixes the model of each.

* A `std::string` is the list of its bytes, `StdString`.  The texts that reach the handlers
  (JSON values, header fields, D-Bus strings) are Lean `String`s, and the `std::string` of a
  text is its UTF-8 encoding, `utf8`, which is also the coercion.  The library calls the
  handlers make (`find`, `rfind`, `substr`, `ends_with`, `starts_with`, `boost::to_upper`,
  `boost::iequals`) are computed on bytes, as the C++ does: a position is a byte offset.
  `substr` returns an `Except Throw`, because a start position past the end throws
  `std::out_of_range`.
* A D-Bus value is a `DbusVariantType`.  The handlers only ever ask `std::get_if` for a
  `std::string` or a `uint8_t`, so every other alternative is one constructor.
* The parsers that the handlers call but that are not in this file (multipart, JSON,
  `param_list`) make up `Parsers`, and each is a parameter.  Every theorem therefore holds
  whatever they compute.
-/

namespace UpdateService

/-- The exceptions that the modelled code can raise. -/
inductive Throw where
  /-- `std::out_of_range`, from `std::string::substr` with a start past the end. -/
  | outOfRange
  /-- `nlohmann::json::parse_error`, from parsing a part that is not JSON. -/
  | parseError
  deriving DecidableEq, Repr

/-- A `std::string`: the bytes it holds. -/
abbrev StdString := List UInt8

/-- The `std::string` of a text: its UTF-8 bytes, laid out as `String.toUTF8` lays them
out. -/
def utf8 (s : String) : StdString := s.toList.flatMap String.utf8EncodeChar

instance : Coe String StdString := ⟨utf8⟩

/-- The position of the first `c` in a list. -/
def firstIndex {α : Type} [DecidableEq α] (c : α) : List α → Option Nat
  | [] => none
  | d :: rest => if d = c then some 0 else (firstIndex c rest).map (· + 1)

/-- `std::string::find(char)`, a byte offset; `none` is `npos`. -/
def find (s : StdString) (c : UInt8) : Option Nat := firstIndex c s

/-- The position of the last `c` in a list. -/
def lastIndex {α : Type} [DecidableEq α] (c : α) : List α → Option Nat
  | [] => none
  | d :: rest =>
    match lastIndex c rest with
    | some i => some (i + 1)
    | none => if d = c then some 0 else none

/-- `std::string::rfind(char)`, a byte offset; `none` is `npos`. -/
def rfind (s : StdString) (c : UInt8) : Option Nat := lastIndex c s

/-- `std::string::substr(pos, count)`, in bytes, where a `count` of `none` is `npos`.  A start
past the end throws. -/
def substr (s : StdString) (pos : Nat) (count : Option Nat) : Except Throw StdString :=
  if pos ≤ s.length then
    .ok (match count with
      | some n => (s.drop pos).take n
      | none => s.drop pos)
  else .error .outOfRange

/-- `boost::to_upper` in the classic locale: the bytes of `a` to `z` become `A` to `Z`, and
every other byte stays. -/
def toUpper (s : StdString) : StdString :=
  s.map fun b => if 'a'.toUInt8 ≤ b ∧ b ≤ 'z'.toUInt8 then b - 32 else b

/-- `boost::iequals`: equal up to the case of ASCII letters. -/
def iequals (a b : StdString) : Bool := toUpper a == toUpper b

/-- `std::string::ends_with`. -/
def endsWith (s suffix : StdString) : Bool := suffix.isSuffixOf s

/-- `std::string_view::starts_with`. -/
def startsWith (s pre : StdString) : Bool := pre.isPrefixOf s

/-- A D-Bus property value, `dbus::utility::DbusVariantType`. -/
inductive DbusVariantType where
  | string (s : String)
  | uint8 (v : UInt8)
  /-- Any other alternative: no handler here reads one. -/
  | other
  deriving DecidableEq, Repr

/-- `std::get_if<std::string>`. -/
def DbusVariantType.asString : DbusVariantType → Option String
  | .string s => some s
  | _ => none

/-- `std::get_if<uint8_t>`. -/
def DbusVariantType.asUInt8 : DbusVariantType → Option UInt8
  | .uint8 v => some v
  | _ => none

/-- What the handlers write: the `redfish::messages` they call, with their arguments in the
order of the call, and two writes that are not messages.  These are `populateResp` of a newly
created task, written as `taskCreated` with the object path that the task watches, and
`res.result(bad_request)`.  The same type holds the messages that the update task appends to
its own log. -/
inductive Message where
  | internalError
  | success
  | serviceTemporarilyUnavailable (arg1 : String)
  | invalidUpload (arg1 arg2 : String)
  | resourceAlreadyExists (arg1 arg2 arg3 : String)
  | resourceExhaustion (arg1 : String)
  /-- Its first argument is the ImageURI as the handler holds it, which may be a cut of the
  request's text at any byte. -/
  | actionParameterValueTypeError (arg1 : StdString) (arg2 arg3 : String)
  | actionParameterNotSupported (arg1 arg2 : String)
  | propertyValueFormatError (arg1 arg2 : String)
  | propertyValueNotInList (arg1 arg2 : String)
  | propertyMissing (arg1 : String)
  | resourceMissingAtURI (arg1 : String)
  | taskAborted (arg1 : String)
  | taskPaused (arg1 : String)
  | taskCompletedOK (arg1 : String)
  | taskProgressChanged (arg1 : String) (arg2 : Nat)
  | taskCreated (objPath : String)
  | badRequest
  deriving DecidableEq, Repr

/-- One part of a `multipart/form-data` body: its header fields and its content. -/
structure FormPart where
  fields : List (String × String)
  content : String
  deriving DecidableEq, Repr

/-- The library parsers that the handlers call.  None of them is in `update_service.hpp`. -/
structure Parsers where
  /-- `json_util::readJsonAction` of the optional `TransferProtocol` and the required
  `ImageURI`.  On failure, it gives the messages that it wrote. -/
  readJsonAction : String → Except (List Message) (Option String × String)
  /-- `MultipartParser::parse` of a body under its content type; `none` is a `ParserError`. -/
  multipart : String → String → Option (List FormPart)
  /-- The `(name, value)` pairs of `boost::beast::http::param_list` over a header tail. -/
  paramList : StdString → List (String × String)
  /-- `nlohmann::json::parse` of an `UpdateParameters` part (it may throw), then
  `json_util::readJson` of its `Targets` and its optional `@Redfish.OperationApplyTime`.
  On failure, it gives the messages that `readJson` wrote. -/
  readUpdateParameters :
    String → Except Throw (Except (List Message) (List String × Option String))

/-- Parsers that reject every input.  A concrete library, so that witnesses can be stated. -/
instance : Inhabited Parsers :=
  ⟨⟨fun _ => .error [], fun _ _ => none, fun _ => [], fun _ => .error .parseError⟩⟩

/-! ## The string operations -/

/-- An element that a split is made at occurs in the list. -/
theorem mem_of_split {α : Type} {c : α} {l pre rest : List α} (e : l = pre ++ c :: rest) :
    c ∈ l :=
  e ▸ List.mem_append_right _ (List.mem_cons_self _ _)

section Lists

variable {α : Type} [DecidableEq α]

@[simp] theorem firstIndex_nil (c : α) : firstIndex c [] = none := rfl

theorem firstIndex_cons (c d : α) (rest : List α) :
    firstIndex c (d :: rest) = if d = c then some 0 else (firstIndex c rest).map (· + 1) := rfl

/-- `find` stops at the first `c`: past a prefix free of `c`, it lands on the `c`. -/
theorem firstIndex_append_cons {c : α} {pre : List α} (h : c ∉ pre) (rest : List α) :
    firstIndex c (pre ++ c :: rest) = some pre.length := by
  induction pre with
  | nil => simp [firstIndex_cons]
  | cons d pre ih =>
    have hd : d ≠ c := fun e => h (e ▸ List.mem_cons_self d pre)
    simp [firstIndex_cons, hd, ih (fun hm => h (List.mem_cons_of_mem d hm))]

/-- A position that `find` returns holds the element and has none before it. -/
theorem firstIndex_eq_some {c : α} {l : List α} {n : Nat} (h : firstIndex c l = some n) :
    ∃ pre rest, l = pre ++ c :: rest ∧ c ∉ pre ∧ pre.length = n := by
  induction l generalizing n with
  | nil => simp at h
  | cons d l ih =>
    by_cases hd : d = c
    · subst hd
      simp [firstIndex_cons] at h
      exact ⟨[], l, rfl, List.not_mem_nil d, h⟩
    · simp only [firstIndex_cons, hd, if_false, Option.map_eq_some'] at h
      obtain ⟨m, hm, rfl⟩ := h
      obtain ⟨pre, rest, rfl, hc, rfl⟩ := ih hm
      exact ⟨d :: pre, rest, rfl, by simp [hc, Ne.symm hd], rfl⟩

/-- `find` returns `npos` exactly on a list without the element. -/
theorem firstIndex_eq_none {c : α} {l : List α} : firstIndex c l = none ↔ c ∉ l := by
  induction l with
  | nil => simp
  | cons d l ih =>
    by_cases hd : d = c
    · simp [firstIndex_cons, hd]
    · simp only [firstIndex_cons, hd, if_false, Option.map_eq_none', ih, List.mem_cons, not_or]
      exact ⟨fun h => ⟨Ne.symm hd, h⟩, And.right⟩

/-- A position that `find` returns lies inside the list. -/
theorem firstIndex_lt {c : α} {l : List α} {n : Nat} (h : firstIndex c l = some n) :
    n < l.length := by
  obtain ⟨pre, rest, rfl, -, rfl⟩ := firstIndex_eq_some h
  simp

/-- An element that occurs has a first occurrence. -/
theorem exists_first_split {c : α} {l : List α} (h : c ∈ l) :
    ∃ pre rest, l = pre ++ c :: rest ∧ c ∉ pre := by
  cases hf : firstIndex c l with
  | none => exact absurd h (firstIndex_eq_none.mp hf)
  | some n =>
    obtain ⟨pre, rest, e, hc, -⟩ := firstIndex_eq_some hf
    exact ⟨pre, rest, e, hc⟩

/-- The first occurrence splits a list in one way only. -/
theorem first_split_unique {c : α} {pre pre' rest rest' : List α} (hc : c ∉ pre)
    (hc' : c ∉ pre') (h : pre ++ c :: rest = pre' ++ c :: rest') : pre = pre' ∧ rest = rest' := by
  have hlen : pre.length = pre'.length := Option.some.inj <| by
    rw [← firstIndex_append_cons hc rest, h, firstIndex_append_cons hc' rest']
  obtain ⟨h1, h2⟩ := List.append_inj h hlen
  exact ⟨h1, (List.cons.inj h2).2⟩

end Lists

/-- `substr` from a position inside the string, or at its end, does not throw. -/
theorem substr_of_le {s : StdString} {pos : Nat} (h : pos ≤ s.length) (count : Option Nat) :
    substr s pos count = .ok (match count with
      | some n => (s.drop pos).take n
      | none => s.drop pos) := if_pos h

/-- `substr` from a position past the end throws `std::out_of_range`. -/
theorem substr_of_lt {s : StdString} {pos : Nat} (h : s.length < pos) (count : Option Nat) :
    substr s pos count = .error .outOfRange := if_neg (Nat.not_le.mpr h)

end UpdateService
