import Formwork.Proofs.Codec.Base64Url
import Formwork.Proofs.Json.RoundTrip
import Formwork.Proofs.Text.Cut
import Formwork.Session.Store

/-! # What a signature stands for

A store reads back the values that it has signed, as long as they are not too old
(`CookieStore.decode_encode`), and a signature is good for one name and one payload
only: whoever puts the signature of a cookie behind another payload, or presents it
under another name, is refused. The signature is about the name and the payload with a
bar between them. Names may hold bars too, but payloads that can be decoded do not, so
the last bar tells the two apart (`CookieStore.signedOctets_inj`).
-/

namespace Formwork

/-- Two messages that a key signs alike. -/
def Hmac.Collides (key a b : Bytes) : Prop := a ≠ b ∧ Hmac.sign key a = Hmac.sign key b

namespace CookieStore

variable {store : CookieStore} {name : String} {values : Json.Members} {time now : Int}

/-- The payload of a cookie: what stands before its first full stop. -/
def payloadPart (cookie : String) : String := ((Text.splitOnce? '.' cookie).map Prod.fst).getD ""

/-- The signature of a cookie: what stands behind its first full stop. -/
def signaturePart (cookie : String) : String := ((Text.splitOnce? '.' cookie).map Prod.snd).getD ""

/-- The payload of a cookie with values signed at a time. -/
def payloadText (values : Json.Members) (time : Int) : String :=
  Base64Url.encode (Utf8.encode (payload time values).render)

/-- The time and the values that a payload holds. -/
def readPayload? (text : String) : Option (Int × Json.Members) :=
  (Base64Url.decode? text).bind fun octets =>
    (Utf8.decode? octets).bind fun content => (Json.parse? content).bind ofPayload?

/-- Values signed at a time come back from the document that is signed. -/
def ReadsBack (time : Int) (values : Json.Members) : Prop :=
  (Json.parse? (payload time values).render).bind ofPayload? = some (time, values)

/-! ## Payloads -/

theorem ofPayload?_payload (ht : Word64.IsSigned time)
    (hc : (Json.object values).canonical = .object values) :
    ofPayload? (payload time values) = some (time, values) := by
  have hi : (Json.int time).asInt64? = some time := by
    simp [Json.asInt64?, Json.asInt?, ht]
  have ho : (Json.object values).canonical.asObject? = some values := by
    rw [hc]
    rfl
  have hm : onlyMember? [("t", Json.int time), ("v", .object values)] "t" = some (.int time) ∧
      onlyMember? [("t", Json.int time), ("v", .object values)] "v" = some (.object values) :=
    ⟨rfl, rfl⟩
  simp only [ofPayload?, payload, hm.1, hm.2, Option.bind_some, Option.map_some,
    Option.bind_eq_bind, hi, ho, Option.pure_def]

/-- Canonical values without fractions come back, unless they nest too deep. -/
theorem readsBack_of_fits {depth : Nat} (ht : Word64.IsSigned time)
    (hf : Json.Fits depth (.object values)) (hd : depth < Json.nestingLimit)
    (hc : (Json.object values).canonical = .object values) : ReadsBack time values := by
  have hp : Json.Fits (depth + 1) (payload time values) := by
    refine .object fun member hm => ?_
    rcases List.mem_cons.1 hm with rfl | hm
    · refine .int ht.1 ?_
      have := ht.2
      unfold Word64.maxSigned at this
      unfold Word64.maxUnsigned
      omega
    · cases List.mem_singleton.1 hm
      exact hf
  rw [ReadsBack, Json.parse?_render (hp.mono hd), Option.bind_some, ofPayload?_payload ht hc]

theorem readPayload?_payloadText (h : ReadsBack time values) :
    readPayload? (payloadText values time) = some (time, values) := by
  rw [readPayload?, payloadText, Base64Url.decode?_encode, Option.bind_some, Utf8.decode?_encode,
    Option.bind_some]
  exact h

theorem onlyMember?_cons {member : String × Json} {members : List (String × Json)} {found : Json}
    (h : onlyMember? (member :: members) member.1 = some found) : found = member.2 := by
  have hf : (member :: members).filter (fun other => other.1 == member.1) =
      member :: members.filter (fun other => other.1 == member.1) := by simp
  rw [onlyMember?, hf] at h
  cases hr : members.filter (fun other => other.1 == member.1) with
  | nil =>
      rw [hr] at h
      exact (Option.some.inj h).symm
  | cons other others =>
      rw [hr] at h
      cases h

/-- Whatever values are signed, a payload that can be read gives the time of signing. -/
theorem time_of_readPayload? {written : Int} {held : Json.Members} (ht : Word64.IsSigned time)
    (h : readPayload? (payloadText values time) = some (written, held)) : written = time := by
  rw [readPayload?, payloadText, Base64Url.decode?_encode, Option.bind_some, Utf8.decode?_encode,
    Option.bind_some] at h
  obtain ⟨document, hd, hp⟩ := Option.bind_eq_some_iff.1 h
  have hhigh : time ≤ Word64.maxUnsigned := by
    have := ht.2
    unfold Word64.maxSigned at this
    unfold Word64.maxUnsigned
    omega
  obtain ⟨others, rfl⟩ := Json.parse?_object_int ht.1 hhigh hd
  obtain ⟨⟨t, v⟩, hm, hrest⟩ := Option.bind_eq_some_iff.1 hp
  obtain ⟨t', ht', hv⟩ := Option.bind_eq_some_iff.1 hm
  obtain ⟨_, _, he⟩ := Option.map_eq_some_iff.1 hv
  cases he
  cases onlyMember?_cons ht'
  obtain ⟨n, hn, hrest⟩ := Option.bind_eq_some_iff.1 hrest
  obtain ⟨_, _, he⟩ := Option.bind_eq_some_iff.1 hrest
  cases he
  have hi : (Json.int time).asInt64? = some time := by simp [Json.asInt64?, Json.asInt?, ht]
  rw [hi] at hn
  exact (Option.some.inj hn).symm

theorem isLetter_of_readPayload? {text : String} (h : readPayload? text = some (time, values)) :
    ∀ c ∈ text.toList, Base64Url.IsLetter c := by
  obtain ⟨octets, ho, _⟩ := Option.bind_eq_some_iff.1 h
  exact Base64Url.isLetter_of_decode? ho

theorem isLetter_of_mem_payloadText : ∀ c ∈ (payloadText values time).toList,
    Base64Url.IsLetter c :=
  Base64Url.isLetter_of_mem_encode

/-! ## Cookies -/

theorem encode_eq (store : CookieStore) (name : String) (values : Json.Members) (time : Int) :
    store.encode name values time = payloadText values time ++ "." ++
      Base64Url.encode (store.signature name (payloadText values time)) := rfl

theorem splitOnce?_encode (store : CookieStore) (name : String) (values : Json.Members)
    (time : Int) :
    Text.splitOnce? '.' (store.encode name values time) = some (payloadText values time,
      Base64Url.encode (store.signature name (payloadText values time))) := by
  rw [Text.splitOnce?_eq_some_iff, encode_eq, String.toList_append, String.toList_append]
  refine ⟨by simp, fun hm => ?_⟩
  exact (isLetter_of_mem_payloadText _ hm).plain.2.2.2.1 rfl

/-- Behind a good signature, the payload decides. -/
theorem decode_of_signature {value text signature : String}
    (hs : Text.splitOnce? '.' value = some (text, signature))
    (hg : Base64Url.decode? signature = some (store.signature name text)) :
    store.decode name value now =
      match readPayload? text with
      | none => .error .malformed
      | some (time, values) =>
          if store.isExpired time now then .error .expired else .ok values := by
  unfold decode readPayload?
  simp only [hs, hg, bne_self_eq_false, Bool.false_eq_true, if_false]
  cases Base64Url.decode? text with
  | none => rfl
  | some octets =>
      cases hu : Utf8.decode? octets with
      | none => simp only [Option.bind_some, hu]; rfl
      | some content =>
          cases hp : (Json.parse? content).bind ofPayload? with
          | none => simp only [Option.bind_some, hu, hp]; rfl
          | some found =>
              obtain ⟨time, values⟩ := found
              simp only [Option.bind_some, hu, hp]
              cases store.isExpired time now <;> rfl

/-- Only values with a good signature are decoded. -/
theorem signature_of_decode {value : String} (h : store.decode name value now = .ok values) :
    ∃ text signature, Text.splitOnce? '.' value = some (text, signature) ∧
      Base64Url.decode? signature = some (store.signature name text) := by
  unfold decode at h
  split at h
  · rename_i text signature hs
    split at h
    · rename_i given hd
      by_cases hg : given = store.signature name text
      · exact ⟨text, signature, hs, hg ▸ hd⟩
      · simp only [bne_iff_ne, ne_eq, hg, not_false_eq_true, if_true] at h
        cases h
    · cases h
  · cases h

/-- A store decodes what it has encoded, until it is too old. -/
theorem decode_encode (h : ReadsBack time values) :
    store.decode name (store.encode name values time) now =
      if store.isExpired time now then .error .expired else .ok values := by
  rw [decode_of_signature (splitOnce?_encode store name values time)
    (Base64Url.decode?_encode _), readPayload?_payloadText h]

/-- Below the greatest number a default lifetime is compared with the exact age, even where
the age has more than 64 bits. -/
theorem isExpired_iff_of_lt (hm : store.defaults.maxAge < Word64.maxSigned) :
    store.isExpired time now = true ↔
      0 < store.defaults.maxAge ∧ store.defaults.maxAge < now - time := by
  rw [isExpired, Bool.and_eq_true, decide_eq_true_eq, decide_eq_true_eq]
  refine and_congr_right fun hpos => Word64.lt_saturate_iff ?_ hm
  have hmin : Word64.minSigned ≤ 0 := by decide
  omega

/-- Signed values come back under any name and at any two times, those signed in the future
included, unless there is a default lifetime and they are older. -/
theorem decode_encode_eq_ite (signed : Word64.IsSigned time)
    (fits : ∀ member ∈ values, Json.Fits 100 member.2)
    (canonical : (Json.object values).canonical = .object values)
    (bounded : store.defaults.maxAge < Word64.maxSigned) :
    store.decode name (store.encode name values time) now =
      if 0 < store.defaults.maxAge ∧ store.defaults.maxAge < now - time then .error .expired
      else .ok values := by
  have hnest : 101 < Json.nestingLimit := by decide
  have hr : ReadsBack time values := readsBack_of_fits signed (.object fits) hnest canonical
  rw [decode_encode hr]
  simp only [isExpired_iff_of_lt bounded]

/-- From the first second that can be written to the last, values expire; the other way round
they do not. -/
theorem decode_encode_ends_of_time :
    (⟨[0x6B], {}⟩ : CookieStore).decode "a|b"
        ((⟨[0x6B], {}⟩ : CookieStore).encode "a|b"
          [("ids", .array [.int 1, .int Word64.maxUnsigned]), ("user", .string "ana")]
          Word64.minSigned) Word64.maxSigned = .error .expired ∧
      (⟨[0x6B], {}⟩ : CookieStore).decode "a|b"
        ((⟨[0x6B], {}⟩ : CookieStore).encode "a|b"
          [("ids", .array [.int 1, .int Word64.maxUnsigned]), ("user", .string "ana")]
          Word64.maxSigned) Word64.minSigned =
        .ok [("ids", .array [.int 1, .int Word64.maxUnsigned]), ("user", .string "ana")] := by
  have hfits : ∀ member ∈ [("ids", Json.array [.int 1, .int Word64.maxUnsigned]),
      ("user", .string "ana")], Json.Fits 100 member.2 := by
    simp only [List.forall_mem_cons]
    refine ⟨.array ?_, .string "ana", nofun⟩
    simp only [List.forall_mem_cons]
    exact ⟨.int (by decide) (by decide), .int (by decide) (by decide), nofun⟩
  constructor
  · exact decode_encode_eq_ite (by decide) hfits rfl (by decide)
  · exact decode_encode_eq_ite (by decide) hfits rfl (by decide)

/-- What a store has encoded is too old for it exactly if it can be read at all and was
signed too long ago. -/
theorem decode_encode_eq_expired_iff (ht : Word64.IsSigned time) :
    store.decode name (store.encode name values time) now = .error .expired ↔
      (readPayload? (payloadText values time)).isSome = true ∧
        store.isExpired time now = true := by
  rw [decode_of_signature (splitOnce?_encode store name values time) (Base64Url.decode?_encode _)]
  cases hp : readPayload? (payloadText values time) with
  | none => simp
  | some content =>
      obtain ⟨written, held⟩ := content
      cases time_of_readPayload? ht hp
      cases he : store.isExpired time now <;> simp [he]

/-- Names and payloads have the same octets under a bar only if they are the same: no
payload holds a bar. -/
theorem signedOctets_inj {other text found : String} (hp : ∀ c ∈ text.toList, Base64Url.IsLetter c)
    (hf : ∀ c ∈ found.toList, Base64Url.IsLetter c)
    (h : signedOctets name text = signedOctets other found) : name = other ∧ text = found := by
  have hbar : ∀ {s : String}, (∀ c ∈ s.toList, Base64Url.IsLetter c) →
      ∀ c ∈ s.toList, (c == '|') = false := by
    intro s h c hc
    rw [beq_eq_false_iff_ne]
    exact (h c hc).plain.2.2.2.2.2.2
  have hl : name.toList ++ '|' :: text.toList = other.toList ++ '|' :: found.toList := by
    have := congrArg String.toList (Utf8.encode_injective h)
    simpa using this
  obtain ⟨hn, ht⟩ := Cut.append_inj_last (p := (· == '|')) (by decide) (hbar hp) (hbar hf) hl
  exact ⟨String.toList_inj.1 hn, String.toList_inj.1 ht⟩

/-- A signature is good for no other name and no other payload. -/
theorem decode_transplanted {other cookie : String} {found : Json.Members}
    (hr : ReadsBack time values)
    (hk : ¬ Hmac.Collides store.key
      (signedOctets name (payloadPart (store.encode name values time)))
      (signedOctets other (payloadPart cookie)))
    (hs : signaturePart cookie = signaturePart (store.encode name values time))
    (hd : store.decode other cookie now = .ok found) :
    other = name ∧ cookie = store.encode name values time ∧ found = values := by
  obtain ⟨text, signature, hc, hg⟩ := signature_of_decode hd
  have he := splitOnce?_encode store name values time
  -- the signature that was given is the one that was made
  have hsig : signature = Base64Url.encode (store.signature name (payloadText values time)) := by
    rw [signaturePart, signaturePart, hc, he] at hs
    exact hs
  rw [hsig, Base64Url.decode?_encode, Option.some.injEq] at hg
  have hm : signedOctets name (payloadText values time) = signedOctets other text := by
    by_contra hne
    rw [payloadPart, payloadPart, hc, he] at hk
    exact hk ⟨hne, hg⟩
  rw [decode_of_signature hc (by rw [hsig, Base64Url.decode?_encode, hg])] at hd
  cases hp : readPayload? text with
  | none =>
      rw [hp] at hd
      cases hd
  | some content =>
      obtain ⟨written, held⟩ := content
      obtain ⟨rfl, rfl⟩ := signedOctets_inj isLetter_of_mem_payloadText
        (isLetter_of_readPayload? hp) hm
      refine ⟨rfl, ?_, ?_⟩
      · obtain ⟨hv, _⟩ := Text.splitOnce?_eq_some_iff.1 hc
        apply String.toList_inj.1
        rw [hv, encode_eq, hsig]
        simp
      · rw [readPayload?_payloadText hr] at hp hd
        cases hp
        simp only at hd
        split at hd
        · cases hd
        · cases hd
          rfl

/-- Presented as it was made, a cookie gives what was signed. -/
theorem decode_own_cookie :
    ∃ found, (⟨[0x6B], {}⟩ : CookieStore).decode "sid"
        ((⟨[0x6B], {}⟩ : CookieStore).encode "sid" [("user", .string "ana")] 1000) 1010 = .ok found ∧
      found = [("user", .string "ana")] := by
  have hr : ReadsBack 1000 [("user", .string "ana")] := by
    refine readsBack_of_fits (by decide) (@Json.Fits.object 0 _ fun member hm => ?_) (by decide) rfl
    cases List.mem_singleton.1 hm
    exact .string "ana"
  have hd := @decode_encode ⟨[0x6B], {}⟩ "sid" _ _ 1010 hr
  rw [if_neg (by decide)] at hd
  exact ⟨_, hd, (decode_transplanted hr (fun hk => hk.1 rfl) rfl hd).2.2⟩

end CookieStore

end Formwork
