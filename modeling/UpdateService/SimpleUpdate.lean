import UpdateService.Basic

/-!
# SimpleUpdate: splitting the ImageURI

The `UpdateService.SimpleUpdate` action takes an optional `TransferProtocol` and an
`ImageURI`.  Without a protocol, the handler reads the scheme up to the first `:`, upper-cases
it, and skips three bytes.  It then needs `TFTP`, and it splits the rest at the first `/`
into the TFTP server and the file.  Both splits are one definition, `splitImageURI`, which
differs only in how many bytes it skips after the separator.  The handler works on the bytes
of its `std::string`s, so the splits are made on the UTF-8 bytes of the request's text: the
three bytes after the `:` may be a part of one character.

* `splitImageURI_append`: what a split gives, for every string.  Its guard
  `separator + 1 > size` can never hold once `find` has found the separator, so a split past
  the end is left to `substr`.
* `simpleUpdateTarget_outOfRange_iff`: the handler throws `std::out_of_range` exactly when
  the first `:` of a protocol-less ImageURI is one of its last two bytes.
* `simpleUpdateTarget_none_download`: the exact protocol-less ImageURIs that reach
  `DownloadViaTFTP`, with the server and the file they pass.
-/

namespace UpdateService

/-- The validation error of both ImageURI checks, with the ImageURI as the handler holds it. -/
def invalidImageURI (imageURI : StdString) : Message :=
  .actionParameterValueTypeError imageURI "ImageURI" "UpdateService.SimpleUpdate"

/-- One split of the SimpleUpdate handler at the first byte `c`: the bytes before it, and the
bytes from `skip` bytes after its position on (`substr(separator + skip)`).  The protocol split
skips 3 (`"://"`), the server split skips 1 (`"/"`). -/
def splitImageURI (imageURI : StdString) (c : UInt8) (skip : Nat) :
    Except Throw (Except Message (StdString × StdString)) :=
  match find imageURI c with
  | none => .ok (.error (invalidImageURI imageURI))
  | some separator =>
    if separator + 1 > imageURI.length then .ok (.error (invalidImageURI imageURI))
    else do
      let before ← substr imageURI 0 (some separator)
      let after ← substr imageURI (separator + skip) none
      pure (.ok (before, after))

/-- The checks of the SimpleUpdate handler after `readJsonAction`, on its `std::string`s
`transferProtocol` and `imageURI`.  Its result is `(tftpServer, fwFile)` for
`DownloadViaTFTP`, a validation error, or a throw. -/
def simpleUpdateTarget (transferProtocol : Option StdString) (imageURI : StdString) :
    Except Throw (Except Message (StdString × StdString)) := do
  let protocolSplit ← match transferProtocol with
    | some protocol => pure (.ok (protocol, imageURI))
    | none => do
      let split ← splitImageURI imageURI ':'.toUInt8 3
      pure (split.map fun (scheme, rest) => (toUpper scheme, rest))
  match protocolSplit with
  | .error m => pure (.error m)
  | .ok (protocol, uri) =>
    if protocol ≠ utf8 "TFTP" then
      pure (.error (.actionParameterNotSupported "TransferProtocol" "UpdateService.SimpleUpdate"))
    else splitImageURI uri '/'.toUInt8 1

/-! ## One split -/

/-- Without the separator, a split is the validation error. -/
theorem splitImageURI_of_not_mem {imageURI : StdString} {c : UInt8} (h : c ∉ imageURI)
    (skip : Nat) : splitImageURI imageURI c skip = .ok (.error (invalidImageURI imageURI)) := by
  simp only [splitImageURI, find, firstIndex_eq_none.mpr h]

/-- **What a split gives.**  At the first `c`, the bytes before it, and the bytes `skip` on
from it.  It throws when that start lies past the end.  The guard `separator + 1 > size` plays
no part: it never holds. -/
theorem splitImageURI_append {c : UInt8} {pre : StdString} (hc : c ∉ pre) (rest : StdString)
    (skip : Nat) :
    splitImageURI (pre ++ c :: rest) c skip =
      if skip ≤ rest.length + 1 then .ok (.ok (pre, (c :: rest).drop skip))
      else .error .outOfRange := by
  have hfind : find (pre ++ c :: rest) c = some pre.length := firstIndex_append_cons hc rest
  have hlen : (pre ++ c :: rest).length = pre.length + rest.length + 1 := by simp; omega
  simp only [splitImageURI, hfind, hlen, substr_of_le (Nat.zero_le _)]
  rw [if_neg (by omega)]
  by_cases hs : skip ≤ rest.length + 1
  · rw [substr_of_le (by rw [hlen]; omega), if_pos hs]
    simp only [List.drop_append, List.drop_zero, List.take_left]
    rfl
  · rw [substr_of_lt (by rw [hlen]; omega), if_neg hs]
    rfl

/-- The server split never throws: its result is the error or the two sides of the first
`/`. -/
theorem splitImageURI_slash (pre rest : StdString) (hc : '/'.toUInt8 ∉ pre) :
    splitImageURI (pre ++ '/'.toUInt8 :: rest) '/'.toUInt8 1 = .ok (.ok (pre, rest)) := by
  rw [splitImageURI_append hc rest 1, if_pos (by omega)]
  rfl

/-- The server split gives `(h, f)` exactly when the rest of the ImageURI is `h ++ "/" ++ f`
with no `/` in `h`. -/
theorem splitImageURI_slash_iff {uri h f : StdString} :
    splitImageURI uri '/'.toUInt8 1 = .ok (.ok (h, f)) ↔
      uri = h ++ '/'.toUInt8 :: f ∧ '/'.toUInt8 ∉ h := by
  by_cases hm : '/'.toUInt8 ∈ uri
  · obtain ⟨pre, rest, rfl, hc⟩ := exists_first_split hm
    rw [splitImageURI_slash pre rest hc]
    constructor
    · intro e
      cases e
      exact ⟨rfl, hc⟩
    · rintro ⟨e, hh⟩
      obtain ⟨rfl, rfl⟩ := first_split_unique hc hh e
      rfl
  · rw [splitImageURI_of_not_mem hm]
    exact ⟨fun e => (by cases e), fun ⟨e, _⟩ => absurd (mem_of_split e) hm⟩

/-- The server split never throws. -/
theorem splitImageURI_slash_ne_error (uri : StdString) (t : Throw) :
    splitImageURI uri '/'.toUInt8 1 ≠ .error t := by
  by_cases hm : '/'.toUInt8 ∈ uri
  · obtain ⟨pre, rest, rfl, hc⟩ := exists_first_split hm
    rw [splitImageURI_slash pre rest hc]
    exact fun e => by cases e
  · rw [splitImageURI_of_not_mem hm]
    exact fun e => by cases e

/-! ## The protocol split -/

/-- With an explicit protocol, only `TFTP` goes on to the server split. -/
theorem simpleUpdateTarget_some (protocol imageURI : StdString) :
    simpleUpdateTarget (some protocol) imageURI =
      if protocol ≠ utf8 "TFTP" then
        .ok (.error (.actionParameterNotSupported "TransferProtocol" "UpdateService.SimpleUpdate"))
      else splitImageURI imageURI '/'.toUInt8 1 := rfl

/-- Without a `:` in a protocol-less ImageURI, the answer is the validation error. -/
theorem simpleUpdateTarget_none_of_not_mem {imageURI : StdString} (h : ':'.toUInt8 ∉ imageURI) :
    simpleUpdateTarget none imageURI = .ok (.error (invalidImageURI imageURI)) := by
  simp only [simpleUpdateTarget, splitImageURI_of_not_mem h]
  rfl

/-- A protocol-less ImageURI whose first `:` is one of its last two bytes throws
`std::out_of_range`: `substr(separator + 3)` starts past the end. -/
theorem simpleUpdateTarget_none_short {pre rest : StdString} (hc : ':'.toUInt8 ∉ pre)
    (hr : rest.length < 2) :
    simpleUpdateTarget none (pre ++ ':'.toUInt8 :: rest) = .error .outOfRange := by
  simp only [simpleUpdateTarget, splitImageURI_append hc rest 3,
    if_neg (by omega : ¬3 ≤ rest.length + 1)]
  rfl

/-- A protocol-less ImageURI with room after its first `:` acts as the upper-cased scheme
given as `TransferProtocol`, with the three bytes after the scheme skipped unread. -/
theorem simpleUpdateTarget_none_split {pre : StdString} (hc : ':'.toUInt8 ∉ pre) (c1 c2 : UInt8)
    (rest : StdString) :
    simpleUpdateTarget none (pre ++ ':'.toUInt8 :: c1 :: c2 :: rest) =
      simpleUpdateTarget (some (toUpper pre)) rest := by
  simp only [simpleUpdateTarget, splitImageURI_append hc _ 3, List.length_cons,
    if_pos (by omega : 3 ≤ rest.length + 1 + 1 + 1)]
  rfl

/-! ## The whole handler -/

/-- **When the handler throws.**  A body without `TransferProtocol` throws `std::out_of_range`
exactly when the first `:` of its ImageURI is one of the last two bytes.  The guard
`separator + 1 > size` lets these through, and `substr(separator + 3)` then starts past the
end. -/
theorem simpleUpdateTarget_outOfRange_iff (imageURI : StdString) :
    simpleUpdateTarget none imageURI = .error .outOfRange ↔
      ∃ pre rest, imageURI = pre ++ ':'.toUInt8 :: rest ∧ ':'.toUInt8 ∉ pre ∧ rest.length < 2 := by
  by_cases hm : ':'.toUInt8 ∈ imageURI
  · obtain ⟨pre, rest, rfl, hc⟩ := exists_first_split hm
    constructor
    · intro h
      refine ⟨pre, rest, rfl, hc, ?_⟩
      match rest with
      | [] | [_] => simp
      | c1 :: c2 :: r =>
        rw [simpleUpdateTarget_none_split hc, simpleUpdateTarget_some] at h
        split at h
        · cases h
        · exact absurd h (splitImageURI_slash_ne_error _ _)
    · rintro ⟨pre', rest', e, hc', hr⟩
      obtain ⟨rfl, rfl⟩ := first_split_unique hc hc' e
      exact simpleUpdateTarget_none_short hc hr
  · rw [simpleUpdateTarget_none_of_not_mem hm]
    exact ⟨fun e => (by cases e), fun ⟨_, _, e, _⟩ => absurd (mem_of_split e) hm⟩

/-- The std::out_of_range of a truncated ImageURI: `"tftp:"` and `"tftp:/"` both throw. -/
theorem truncated_imageURI_throws :
    simpleUpdateTarget none "tftp:" = .error .outOfRange ∧
      simpleUpdateTarget none "tftp:/" = .error .outOfRange :=
  ⟨rfl, rfl⟩

/-- With `TransferProtocol`, the body is downloaded exactly when the protocol is `TFTP` and the
ImageURI is `h ++ "/" ++ f` with no `/` in `h`. -/
theorem simpleUpdateTarget_some_download (protocol imageURI h f : StdString) :
    simpleUpdateTarget (some protocol) imageURI = .ok (.ok (h, f)) ↔
      protocol = utf8 "TFTP" ∧ imageURI = h ++ '/'.toUInt8 :: f ∧ '/'.toUInt8 ∉ h := by
  rw [simpleUpdateTarget_some]
  by_cases hp : protocol = utf8 "TFTP"
  · simp only [hp, ne_eq, not_true_eq_false, if_false, true_and]
    exact splitImageURI_slash_iff
  · simp only [hp, ne_eq, not_false_eq_true, if_true, false_and, iff_false]
    exact fun e => by cases e

/-- **Exactly the protocol-less bodies that are downloaded.**  They are the ImageURIs
`s ++ ":" ++ [c1, c2] ++ h ++ "/" ++ f` where `s` has no `:` and upper-cases to `TFTP`, and
`h` has no `/`.  Nothing asks the bytes `c1 c2` to be `"//"`, or `h` or `f` to be
non-empty. -/
theorem simpleUpdateTarget_none_download (imageURI h f : StdString) :
    simpleUpdateTarget none imageURI = .ok (.ok (h, f)) ↔
      '/'.toUInt8 ∉ h ∧ ∃ s c1 c2, ':'.toUInt8 ∉ s ∧ toUpper s = utf8 "TFTP" ∧
        imageURI = s ++ ':'.toUInt8 :: c1 :: c2 :: (h ++ '/'.toUInt8 :: f) := by
  by_cases hm : ':'.toUInt8 ∈ imageURI
  · obtain ⟨pre, rest, rfl, hc⟩ := exists_first_split hm
    match rest with
    | [] | [_] =>
      rw [simpleUpdateTarget_none_short hc (by simp)]
      refine ⟨fun e => (by cases e), fun ⟨_, s, c1, c2, hs, _, e⟩ => ?_⟩
      cases (first_split_unique hc hs e).2
    | c1 :: c2 :: r =>
      rw [simpleUpdateTarget_none_split hc, simpleUpdateTarget_some_download]
      constructor
      · rintro ⟨hp, e, hh⟩
        exact ⟨hh, pre, c1, c2, hc, hp, congrArg (fun x => pre ++ ':'.toUInt8 :: c1 :: c2 :: x) e⟩
      · rintro ⟨hh, s, c1', c2', hs, hp, e⟩
        obtain ⟨rfl, e'⟩ := first_split_unique hc hs e
        cases e'
        exact ⟨hp, rfl, hh⟩
  · rw [simpleUpdateTarget_none_of_not_mem hm]
    exact ⟨fun e => (by cases e), fun ⟨_, _, _, _, _, _, e⟩ => absurd (mem_of_split e) hm⟩

/-- Three near misses that are downloaded.  An empty file name, an empty server, and a scheme
followed by `:xx` instead of `://` all pass. -/
theorem download_near_misses :
    simpleUpdateTarget (some "TFTP") "10.0.0.5/" = .ok (.ok ("10.0.0.5", "")) ∧
      simpleUpdateTarget (some "TFTP") "/image.bin" = .ok (.ok ("", "image.bin")) ∧
      simpleUpdateTarget none "tftp:xx10.0.0.5/image.bin" = .ok (.ok ("10.0.0.5", "image.bin")) :=
  ⟨rfl, rfl, rfl⟩

end UpdateService
