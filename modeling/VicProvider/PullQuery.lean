import VicProvider.ImageStore
import Mathlib.Data.List.Basic

/-!
# The query of the pull URL

`PullImage` builds its URL with `fmt.Sprintf`, pasting the image and the tag
into the query as they are.  `decodeQuery` reads that query back as a form:
split on `&`, each piece split at its first `=`, then `+` read as a space and
`%XX` percent-decoded.  The persona's own reader, Go's `url.ParseQuery`, is not
part of this repository; it also separates pieces at `;` (before Go 1.17) or
drops a piece holding one (since), and agrees with `decodeQuery` on a query
without `;`.

* `decodeQuery_formText` — decoding inverts `formText`, the unescaped
  `name=value&...` text `Sprintf` writes, on names and values with nothing to
  escape.
* `decodeQuery_pullURL` — when neither the image nor the tag holds `&`, `+`,
  `%`, `;` or `#`, and the persona address holds no `?` or `#`, the query
  decodes to `pullParams`: `fromImage` and, for a tag that is not empty, `tag`.
  The query then holds no `;`, so the persona's reader splits it the same way.
* Nothing escapes the values, so an `&` in the image starts a parameter of its
  own: the image `busybox&fromSrc=evil` reaches the persona as `fromImage=busybox`
  and `fromSrc=evil`.
-/

namespace Vic.Proxy

/-- The query of a URL: what follows its first `?`, up to a `#`. -/
def queryOf (url : String) : List Char :=
  ((url.data.takeWhile (· ≠ '#')).dropWhile (· ≠ '?')).drop 1

/-- The value of a hexadecimal digit. -/
def hexValue (c : Char) : Option Nat :=
  if '0' ≤ c ∧ c ≤ '9' then some (c.toNat - '0'.toNat)
  else if 'a' ≤ c ∧ c ≤ 'f' then some (c.toNat - 'a'.toNat + 10)
  else if 'A' ≤ c ∧ c ≤ 'F' then some (c.toNat - 'A'.toNat + 10)
  else none

/-- Percent-decoding: `%XX` is the character of code `XX` (the byte itself on
ASCII); a `%` without two hexadecimal digits after it makes the text
malformed. -/
def percentDecode : List Char → Option (List Char)
  | [] => some []
  | c :: rest =>
    if c = '%' then
      match rest with
      | a :: b :: rest => do
        let hi ← hexValue a
        let lo ← hexValue b
        let rest ← percentDecode rest
        return Char.ofNat (16 * hi + lo) :: rest
      | _ => none
    else (percentDecode rest).map (c :: ·)

/-- `+` is a space in a form. -/
def plusToSpace (l : List Char) : List Char :=
  l.map fun c => if c = '+' then ' ' else c

/-- One name or value of a form. -/
def decodeComponent (l : List Char) : Option String :=
  (percentDecode (plusToSpace l)).map String.mk

/-- One piece of a form, split at its first `=`. -/
def decodePair (piece : List Char) : Option (String × String) := do
  let name ← decodeComponent (piece.takeWhile (· ≠ '='))
  let value ← decodeComponent ((piece.dropWhile (· ≠ '=')).drop 1)
  return (name, value)

/-- A form-encoded query, its empty pieces skipped. -/
def decodeQuery (q : List Char) : Option (List (String × String)) :=
  ((q.splitOn '&').filter (· ≠ [])).mapM decodePair

/-- The parameters `PullImage` means to send: `fromImage`, and `tag` when it is
not empty. -/
def pullParams (image tag : String) : List (String × String) :=
  if tag = "" then [("fromImage", image)] else [("fromImage", image), ("tag", tag)]

/-- The text of a form with nothing escaped: `name=value` pieces joined by `&`. -/
def formText (ps : List (String × String)) : List Char :=
  ['&'].intercalate (ps.map fun p => p.1.data ++ '=' :: p.2.data)

/-! ### Decoding text with nothing to decode -/

/-- Text without `%` is left as it is. -/
theorem percentDecode_of_forall_ne {l : List Char} (h : ∀ c ∈ l, c ≠ '%') :
    percentDecode l = some l := by
  induction l with
  | nil => rfl
  | cons c l ih =>
    unfold percentDecode
    rw [if_neg (h c (.head _)), ih fun d hd => h d (.tail _ hd)]
    rfl

/-- Text without `+` is left as it is. -/
theorem plusToSpace_of_forall_ne {l : List Char} (h : ∀ c ∈ l, c ≠ '+') :
    plusToSpace l = l :=
  (List.map_congr_left fun c hc => if_neg (h c hc)).trans (List.map_id l)

/-- A component without `+` or `%` decodes to itself. -/
theorem decodeComponent_of_forall {l : List Char} (h : ∀ c ∈ l, c ≠ '+' ∧ c ≠ '%') :
    decodeComponent l = some ⟨l⟩ := by
  rw [decodeComponent, plusToSpace_of_forall_ne fun c hc => (h c hc).1,
    percentDecode_of_forall_ne fun c hc => (h c hc).2]
  rfl

/-- A piece `name=value` decodes to its name and its value when neither holds
`+` or `%`, and the name holds no `=`. -/
theorem decodePair_of_forall {name value : List Char}
    (hname : ∀ c ∈ name, c ≠ '=' ∧ c ≠ '+' ∧ c ≠ '%') (hvalue : ∀ c ∈ value, c ≠ '+' ∧ c ≠ '%') :
    decodePair (name ++ '=' :: value) = some (⟨name⟩, ⟨value⟩) := by
  have htake : (name ++ '=' :: value).takeWhile (· ≠ '=') = name := by
    rw [List.takeWhile_append_of_pos fun c hc => decide_eq_true (hname c hc).1]
    simp
  have hdrop : (name ++ '=' :: value).dropWhile (· ≠ '=') = '=' :: value := by
    rw [List.dropWhile_append_of_pos fun c hc => decide_eq_true (hname c hc).1]
    simp
  simp only [decodePair, htake, hdrop, List.drop_one, List.tail_cons,
    decodeComponent_of_forall fun c hc => (hname c hc).2, decodeComponent_of_forall hvalue]
  rfl

/-- Pieces `name=value` with nothing to decode decode to their pairs. -/
theorem mapM_decodePair {ps : List (String × String)}
    (hplain : ∀ p ∈ ps, (∀ c ∈ p.1.data, c ≠ '=' ∧ c ≠ '+' ∧ c ≠ '%') ∧
      ∀ c ∈ p.2.data, c ≠ '+' ∧ c ≠ '%') :
    (ps.map fun p => p.1.data ++ '=' :: p.2.data).mapM decodePair = some ps := by
  induction ps with
  | nil => rfl
  | cons p ps ih =>
    have hp := hplain p (.head _)
    rw [List.map_cons, List.mapM_cons, decodePair_of_forall hp.1 hp.2,
      ih fun q hq => hplain q (.tail _ hq)]
    rfl

/-- **Form decoding inverts `formText`** on names and values with nothing to
escape. -/
theorem decodeQuery_formText {ps : List (String × String)} (hps : ps ≠ [])
    (hplain : ∀ p ∈ ps, (∀ c ∈ p.1.data, c ≠ '=' ∧ c ≠ '&' ∧ c ≠ '+' ∧ c ≠ '%') ∧
      ∀ c ∈ p.2.data, c ≠ '&' ∧ c ≠ '+' ∧ c ≠ '%') :
    decodeQuery (formText ps) = some ps := by
  have hsplit : (formText ps).splitOn '&' = ps.map fun p => p.1.data ++ '=' :: p.2.data := by
    refine List.splitOn_intercalate _ '&' ?_ (by simpa using hps)
    intro l hl
    obtain ⟨p, hp, rfl⟩ := List.mem_map.mp hl
    simp only [List.mem_append, List.mem_cons, not_or]
    exact ⟨fun h => (hplain p hp).1 _ h |>.2.1 rfl, by decide, fun h => (hplain p hp).2 _ h |>.1 rfl⟩
  rw [decodeQuery, hsplit, List.filter_eq_self.mpr fun l hl => by
    obtain ⟨p, -, rfl⟩ := List.mem_map.mp hl; simp]
  exact mapM_decodePair fun p hp =>
    ⟨fun c hc => ((hplain p hp).1 c hc).imp_right And.right, fun c hc => ((hplain p hp).2 c hc).2⟩

/-! ### The pull URL -/

/-- The query of `pre ++ "?" ++ rest`, when `pre` holds no `?` and neither
holds `#`. -/
theorem queryOf_append {pre rest : List Char} (hpre : '?' ∉ pre ∧ '#' ∉ pre)
    (hrest : '#' ∉ rest) : queryOf ⟨pre ++ '?' :: rest⟩ = rest := by
  have htake : (pre ++ '?' :: rest).takeWhile (· ≠ '#') = pre ++ '?' :: rest :=
    List.takeWhile_eq_self_iff.mpr (by simp [imp_not_comm, hpre.2, hrest])
  rw [queryOf, htake,
    List.dropWhile_append_of_pos fun c hc => decide_eq_true (ne_of_mem_of_not_mem hc hpre.1)]
  simp

/-- `PullImage`'s URL is the persona's endpoint, then `?` and `formText` of the
parameters. -/
theorem pullURL_data (v : VicImageStore) (image tag : String) :
    (v.pullURL image tag).data = ("http://" ++ v.personaAddr ++ "/v1.35/images/create").data ++
      '?' :: formText (pullParams image tag) := by
  unfold VicImageStore.pullURL pullParams formText
  split_ifs <;> simp [List.intercalate]

/-- **The pull query decodes to the parameters meant** when neither the image
nor the tag holds `&`, `+`, `%`, `;` or `#`, and the persona address holds no
`?` or `#`. -/
theorem decodeQuery_pullURL (v : VicImageStore) {image tag : String}
    (haddr : '?' ∉ v.personaAddr.data ∧ '#' ∉ v.personaAddr.data)
    (hplain : ∀ c ∈ image.data ++ tag.data, c ≠ '&' ∧ c ≠ '+' ∧ c ≠ '%' ∧ c ≠ ';')
    (hhash : '#' ∉ image.data ++ tag.data) :
    decodeQuery (queryOf (v.pullURL image tag)) = some (pullParams image tag) := by
  have hpre : '?' ∉ ("http://" ++ v.personaAddr ++ "/v1.35/images/create").data ∧
      '#' ∉ ("http://" ++ v.personaAddr ++ "/v1.35/images/create").data := by
    simpa using haddr
  have hrest : '#' ∉ formText (pullParams image tag) := by
    simp only [List.mem_append, not_or] at hhash
    unfold formText pullParams
    split_ifs <;> simp [List.intercalate, hhash]
  have hsub : pullParams image tag ⊆ [("fromImage", image), ("tag", tag)] := by
    unfold pullParams; split_ifs <;> simp
  have hnames : ∀ name ∈ ["fromImage", "tag"], ∀ c ∈ name.data,
      c ≠ '=' ∧ c ≠ '&' ∧ c ≠ '+' ∧ c ≠ '%' := by decide
  have hvalue : ∀ c ∈ image.data ++ tag.data, c ≠ '&' ∧ c ≠ '+' ∧ c ≠ '%' :=
    fun c hc => (hplain c hc).imp_right (.imp_right And.left)
  show decodeQuery (queryOf ⟨(v.pullURL image tag).data⟩) = _
  rw [pullURL_data, queryOf_append hpre hrest]
  refine decodeQuery_formText (by unfold pullParams; split_ifs <;> simp) fun p hp => ?_
  obtain rfl | rfl := List.mem_pair.mp (hsub hp)
  exacts [⟨hnames _ (.head _), fun c hc => hvalue c (List.mem_append_left _ hc)⟩,
    ⟨hnames _ (.tail _ (.head _)), fun c hc => hvalue c (List.mem_append_right _ hc)⟩]

/-- A case: `busybox:latest` from a local persona. -/
theorem decodeQuery_pullURL_busybox :
    ('?' ∉ "127.0.0.1:2375".data ∧ '#' ∉ "127.0.0.1:2375".data) ∧
    (∀ c ∈ "busybox".data ++ "latest".data, c ≠ '&' ∧ c ≠ '+' ∧ c ≠ '%' ∧ c ≠ ';') ∧
    '#' ∉ "busybox".data ++ "latest".data ∧
    decodeQuery (queryOf ((⟨"127.0.0.1:2375"⟩ : VicImageStore).pullURL "busybox" "latest")) =
      some (pullParams "busybox" "latest") :=
  ⟨by decide, by decide, by decide,
    decodeQuery_pullURL ⟨"127.0.0.1:2375"⟩ (by decide) (by decide) (by decide)⟩

/-- Nothing escapes the image: an `&` in it starts a parameter of its own, so
the persona is not sent the parameters meant. -/
theorem decodeQuery_pullURL_ampersand :
    decodeQuery (queryOf ((⟨"127.0.0.1:2375"⟩ : VicImageStore).pullURL "busybox&fromSrc=evil" "")) =
        some [("fromImage", "busybox"), ("fromSrc", "evil")] ∧
      decodeQuery (queryOf ((⟨"127.0.0.1:2375"⟩ : VicImageStore).pullURL "busybox&fromSrc=evil" "")) ≠
        some (pullParams "busybox&fromSrc=evil" "") := by
  decide

end Vic.Proxy
