import Seev.Cryptox.Ring

/-!
# A sealed field opens only in its own row

* `AAD.bytes_inj`: fields without NUL and the version are read back from the associated data.
* `parseEnvelope_serialized`: the header of an envelope is read back, the version modulo `2 ^ 32`.
* `opensOnlyInRow_iff`: what a ring seals opens in its own row and nowhere else exactly when its
  current version fits the four bytes of the header.

No cipher with short ciphertexts is ideal about every seal at once, since there are more associated
data than ciphertexts of one length. The assumption is `Authentic`, about the data key's seal.
-/

namespace Seev.Cryptox

open Lib (Bytes)

variable {A : Aead} {draw : Draw} {a b : AAD} {v w : Int64} {s s' t t' p q : Bytes}

/-! ## Associated data -/

/-- The digits and the sign of a version are single bytes. -/
theorem itoa_chars (v : Int64) : (itoa v).map (fun b => Char.ofNat b.toNat) = Lib.formatInt v := by
  rw [itoa, List.map_map]
  conv_rhs => rw [← List.map_id (Lib.formatInt v)]
  refine List.map_congr_left fun c hc => ?_
  have hbyte : c.toNat < 256 := by
    rcases Lib.formatInt_chars hc with hdigit | rfl
    · have hdigit := Char.isDigit_iff_toNat.1 hdigit
      have hnine : '9'.toNat = 57 := rfl
      omega
    · decide
  simp only [Function.comp_apply, UInt8.toNat_ofNat', Nat.mod_eq_of_lt (show c.toNat < 2 ^ 8 from hbyte),
    Char.ofNat_toNat, id]

theorem itoa_inj (h : itoa v = itoa w) : v = w := by
  have htext : Lib.formatInt v = Lib.formatInt w := by rw [← itoa_chars, h, itoa_chars]
  have hparse := congrArg Lib.parseInt htext
  rw [Lib.parseInt_formatInt, Lib.parseInt_formatInt] at hparse
  exact Option.some.inj hparse

/-- A field without NUL ends at the first NUL. -/
theorem field_inj (hs : 0 ∉ s) (hs' : 0 ∉ s') (h : s ++ 0 :: t = s' ++ 0 :: t') : s = s' ∧ t = t' := by
  induction s generalizing s' with
  | nil =>
    cases s' with
    | nil => exact ⟨rfl, (List.cons.inj h).2⟩
    | cons x s' => exact absurd ((List.cons.inj h).1 ▸ List.mem_cons_self) hs'
  | cons x s ih =>
    cases s' with
    | nil => exact absurd ((List.cons.inj h).1 ▸ List.mem_cons_self) hs
    | cons y s' =>
      obtain ⟨rfl, htail⟩ := List.cons.inj h
      obtain ⟨rfl, hrest⟩ :=
        ih (fun hm => hs (List.mem_cons_of_mem _ hm)) (fun hm => hs' (List.mem_cons_of_mem _ hm)) htail
      exact ⟨rfl, hrest⟩

/-- No field has a NUL byte. -/
structure AAD.NulFree (a : AAD) : Prop where
  service : 0 ∉ a.service
  table : 0 ∉ a.table
  column : 0 ∉ a.column
  rowID : 0 ∉ a.rowID

/-- The same service, table, column and row. -/
structure AAD.SameField (a b : AAD) : Prop where
  service : a.service = b.service
  table : a.table = b.table
  column : a.column = b.column
  rowID : a.rowID = b.rowID

/-- **The encoding is injective.** -/
theorem AAD.bytes_inj (ha : a.NulFree) (hb : b.NulFree) (h : a.bytes = b.bytes) :
    a.SameField b ∧ a.version = b.version := by
  obtain ⟨hservice, h⟩ := field_inj ha.service hb.service h
  obtain ⟨htable, h⟩ := field_inj ha.table hb.table h
  obtain ⟨hcolumn, h⟩ := field_inj ha.column hb.column h
  obtain ⟨hrow, h⟩ := field_inj ha.rowID hb.rowID h
  exact ⟨⟨hservice, htable, hcolumn, hrow⟩, itoa_inj h⟩

theorem AAD.NulFree.at_version (h : a.NulFree) (v : Int64) : AAD.NulFree { a with version := v } :=
  ⟨h.service, h.table, h.column, h.rowID⟩

theorem AAD.SameField.bytes_eq (h : a.SameField b) (v : Int64) :
    AAD.bytes { a with version := v } = AAD.bytes { b with version := v } := by
  simp only [AAD.bytes, h.service, h.table, h.column, h.rowID]

/-! ## Envelopes -/

theorem getUint32_putUint32 (n : ℤ) : (getUint32 (putUint32 n) : ℤ) = n % 2 ^ 32 := by
  simp only [putUint32, getUint32, UInt8.toNat_ofNat']
  omega

/-- **The header is read back.** -/
theorem parseEnvelope_serialized (n : ℤ) {wrapped data : Bytes} (hlen : wrapped.length < 2 ^ 32)
    (hdata : data ≠ []) :
    parseEnvelope (magic ++ (putUint32 n ++ (putUint32 wrapped.length ++ (wrapped ++ data)))) =
      .ok (Int64.ofInt (n % 2 ^ 32), wrapped, data) := by
  have hwrapped : getUint32 (putUint32 wrapped.length) = wrapped.length := by
    have := getUint32_putUint32 wrapped.length
    omega
  have hversion : Int64.ofInt (getUint32 (putUint32 n)) = Int64.ofInt (n % 2 ^ 32) := by rw [getUint32_putUint32]
  -- the first twelve bytes are literals, so the slices compute
  generalize hw : wrapped ++ data = rest
  have hmagic : (magic ++ (putUint32 n ++ (putUint32 wrapped.length ++ rest))).take 4 = magic := rfl
  have hver : ((magic ++ (putUint32 n ++ (putUint32 wrapped.length ++ rest))).drop 4).take 4 = putUint32 n := rfl
  have hlength : ((magic ++ (putUint32 n ++ (putUint32 wrapped.length ++ rest))).drop 8).take 4 =
      putUint32 wrapped.length := rfl
  have hrest : (magic ++ (putUint32 n ++ (putUint32 wrapped.length ++ rest))).drop 12 = rest := rfl
  have hlong : ¬ (magic ++ (putUint32 n ++ (putUint32 wrapped.length ++ rest))).length < 12 := by
    simp [magic, putUint32]
  simp only [parseEnvelope, hmagic, hver, hlength, hrest, hlong, hwrapped, hversion, ne_eq, not_true, or_self,
    if_false]
  rw [← hw]
  simp [hdata]

/-! ## One layer -/

/-- What was sealed opens only under its own key, nonce and associated data. -/
def Aead.Authentic (A : Aead) (key nonce aad plaintext : Bytes) : Prop :=
  ∀ key' nonce' aad' p, A.dec key' nonce' aad' (A.enc key nonce aad plaintext) = some p →
    key' = key ∧ nonce' = nonce ∧ aad' = aad

variable {key key' nonce ad ad' : Bytes}

theorem newCipher_of_length (h : key.length = keySize) : newCipher key = true := by simp [newCipher, h, keySize]

theorem gcmSeal_ok (h : key.length = keySize) :
    gcmSeal A nonce key ad p = .ok (nonce ++ A.enc key nonce ad p) := if_pos (newCipher_of_length h)

theorem gcmOpen_sealed (hnonce : nonce.length = nonceSize) (h : key'.length = keySize) :
    gcmOpen A key' ad' (nonce ++ A.enc key nonce ad p) =
      match A.dec key' nonce ad' (A.enc key nonce ad p) with
      | some q => .ok q
      | none => .error .invalidEnvelope := by
  have htake : (nonce ++ A.enc key nonce ad p).take nonceSize = nonce := by rw [← hnonce, List.take_left]
  have hdrop : (nonce ++ A.enc key nonce ad p).drop nonceSize = A.enc key nonce ad p := by
    rw [← hnonce, List.drop_left]
  have hlong : ¬ (nonce ++ A.enc key nonce ad p).length < nonceSize := by rw [List.length_append]; omega
  cases hdec : A.dec key' nonce ad' (A.enc key nonce ad p) <;>
    simp only [gcmOpen, newCipher_of_length h, htake, hdrop, if_neg hlong, Bool.not_true, Bool.false_eq_true,
      if_false, hdec]

theorem gcmOpen_same (hnonce : nonce.length = nonceSize) (h : key.length = keySize) :
    gcmOpen A key ad (nonce ++ A.enc key nonce ad p) = .ok p := by
  rw [gcmOpen_sealed hnonce h, A.dec_enc]

theorem gcmOpen_other (hA : A.Authentic key nonce ad p) (hnonce : nonce.length = nonceSize)
    (h : key'.length = keySize)
    (hne : ad' ≠ ad) : gcmOpen A key' ad' (nonce ++ A.enc key nonce ad p) = .error .invalidEnvelope := by
  rw [gcmOpen_sealed hnonce h]
  cases hdec : A.dec key' nonce ad' (A.enc key nonce ad p) with
  | none => rfl
  | some q => exact absurd (hA _ _ _ q hdec).2.2 hne

/-! ## The ring -/

variable {keys : KeySet} {current : Int64} {r r' : Ring}

theorem newRing_eq_ok (h : newRing keys current = .ok r) : r.keys = keys ∧ r.current = current := by
  unfold newRing at h
  split at h
  · cases h
  split at h
  · cases h
  split at h
  · cases h
    exact ⟨rfl, rfl⟩
  · cases h

theorem Ring.get_length (r : Ring) {version : Int64} {kek : Bytes} (h : r.keys.get version = some kek) :
    kek.length = keySize := by
  obtain ⟨before, after, hentries, -⟩ := List.lookup_eq_some_iff.1 h
  exact r.keyBytes (version, kek) (hentries ▸ List.mem_append_right _ List.mem_cons_self)

/-- The ring's current key. -/
def Ring.kek (r : Ring) : Bytes := (r.keys.get r.current).getD []

theorem Ring.get_current (r : Ring) : r.keys.get r.current = some r.kek := by
  obtain ⟨kek, hkek⟩ := Option.isSome_iff_exists.1 r.present
  rw [Ring.kek, hkek, Option.getD_some]

/-- The associated data of what the ring seals. -/
def Ring.sealedAAD (r : Ring) (a : AAD) : Bytes := AAD.bytes { a with version := r.current }

/-- The wrapped data key. -/
def Ring.wrapped (r : Ring) (A : Aead) (draw : Draw) (a : AAD) : Bytes :=
  draw.wrapNonce ++ A.enc r.kek draw.wrapNonce (r.sealedAAD a) draw.dek

theorem Ring.seal_ok (r : Ring) (A : Aead) (draw : Draw) (a : AAD) (p : Bytes) :
    r.seal A draw a p = .ok (magic ++ (putUint32 r.current.toInt ++ (putUint32 (r.wrapped A draw a).length ++
      (r.wrapped A draw a ++ (draw.dataNonce ++ A.enc draw.dek draw.dataNonce (r.sealedAAD a) p))))) := by
  have hkek := r.get_length r.get_current
  show sealEnvelope A draw r.kek r.current _ p = _
  rw [sealEnvelope, if_neg (not_not.2 hkek), gcmSeal_ok draw.dek_length, Lib.ok_bind, gcmSeal_ok hkek]
  rfl

theorem length_wrapped : (r.wrapped A draw a).length = 60 := by
  simp [Ring.wrapped, A.length_enc, draw.dek_length, draw.wrapNonce_length, keySize, nonceSize]

/-- The version a header gives back. -/
def headerVersion (v : Int64) : Int64 := Int64.ofInt (v.toInt % 2 ^ 32)

theorem parse_sealed (hseal : r.seal A draw a p = .ok q) :
    parseEnvelope q = .ok (headerVersion r.current, r.wrapped A draw a,
      draw.dataNonce ++ A.enc draw.dek draw.dataNonce (r.sealedAAD a) p) := by
  rw [r.seal_ok] at hseal
  cases hseal
  refine parseEnvelope_serialized _ (by rw [length_wrapped]; decide) ?_
  have hlen := draw.dataNonce_length
  exact List.append_ne_nil_of_left_ne_nil (List.ne_nil_of_length_pos (by rw [hlen]; decide)) _

/-- Opening what `r` sealed: by the key of the header's version, through both layers. -/
theorem Ring.open_sealed (hseal : r.seal A draw a p = .ok q) (b : AAD) {kek : Bytes}
    (hkek : r'.keys.get (headerVersion r.current) = some kek) :
    r'.open A b q =
      (gcmOpen A kek (AAD.bytes { b with version := headerVersion r.current }) (r.wrapped A draw a) >>= fun dek =>
        gcmOpen A dek (AAD.bytes { b with version := headerVersion r.current })
          (draw.dataNonce ++ A.enc draw.dek draw.dataNonce (r.sealedAAD a) p)) := by
  have hparse := parse_sealed hseal
  simp only [Ring.open, envelopeKeyVersion, hparse, Lib.ok_bind]
  simp only [pure, Except.pure, Lib.ok_bind, hkek, openEnvelope, r'.get_length hkek, ne_eq, not_true, if_false,
    hparse]

theorem Ring.open_same (hseal : r.seal A draw a p = .ok q) (hkek : r'.keys.get r.current = some r.kek)
    (hversion : headerVersion r.current = r.current) (hsame : a.SameField b) : r'.open A b q = .ok p := by
  rw [Ring.open_sealed hseal b (hversion.symm ▸ hkek), hversion, ← hsame.bytes_eq]
  rw [Ring.wrapped, ← Ring.sealedAAD, gcmOpen_same draw.wrapNonce_length (r.get_length r.get_current),
    Lib.ok_bind, gcmOpen_same draw.dataNonce_length draw.dek_length]

theorem Ring.open_other (r' : Ring) (b : AAD) (hseal : r.seal A draw a p = .ok q)
    (hA : A.Authentic r.kek draw.wrapNonce (r.sealedAAD a) draw.dek)
    (hne : AAD.bytes { b with version := headerVersion r.current } ≠ r.sealedAAD a) :
    ∃ e, r'.open A b q = .error e := by
  cases hkek : r'.keys.get (headerVersion r.current) with
  | none =>
    refine ⟨.keyVersionUnavailable, ?_⟩
    simp only [Ring.open, envelopeKeyVersion, parse_sealed hseal, Lib.ok_bind]
    simp only [pure, Except.pure, Lib.ok_bind, hkek]
  | some kek =>
    refine ⟨.invalidEnvelope, ?_⟩
    rw [Ring.open_sealed hseal b hkek, Ring.wrapped,
      gcmOpen_other hA draw.wrapNonce_length (r'.get_length hkek) hne]
    rfl

/-! ## Versions -/

/-- The versions that fit the header. -/
def Fits (v : Int64) : Prop := 0 ≤ v.toInt ∧ v.toInt < 2 ^ 32

instance (v : Int64) : Decidable (Fits v) := inferInstanceAs (Decidable (_ ∧ _))

theorem headerVersion_eq_iff : headerVersion v = v ↔ Fits v := by
  constructor
  · intro h
    have hm0 : 0 ≤ v.toInt % 2 ^ 32 := Int.emod_nonneg _ (by decide)
    have hm1 : v.toInt % 2 ^ 32 < 2 ^ 32 := Int.emod_lt_of_pos _ (by decide)
    have htoInt : (headerVersion v).toInt = v.toInt % 2 ^ 32 :=
      Int64.toInt_ofInt_of_le (by omega) (by omega)
    rw [h] at htoInt
    exact ⟨htoInt ▸ hm0, htoInt ▸ hm1⟩
  · intro h
    rw [headerVersion, Int.emod_eq_of_lt h.1 h.2, Int64.ofInt_toInt]

/-! ## Only in its own row -/

/-- A later key set keeps the keys. -/
def KeySet.Keeps (keys keys' : KeySet) : Prop := ∀ v kek, keys.get v = some kek → keys'.get v = some kek

/-- **What the ring seals opens in its own row and nowhere else**, by every later ring. -/
def OpensOnlyInRow (r : Ring) : Prop :=
  ∀ (A : Aead) (draw : Draw) (keys' : KeySet) (current' : Int64) (r' : Ring),
    newRing keys' current' = .ok r' → r.keys.Keeps keys' →
    ∀ (a b : AAD) (p : Bytes), a.NulFree → b.NulFree →
      A.Authentic r.kek draw.wrapNonce (r.sealedAAD a) draw.dek →
      ∃ envelope, r.seal A draw a p = .ok envelope ∧
        (a.SameField b → r'.open A b envelope = .ok p) ∧
        (¬ a.SameField b → ∃ e, r'.open A b envelope = .error e)

theorem opensOnlyInRow_of_fits (h : Fits r.current) : OpensOnlyInRow r := by
  intro A draw keys' current' r' hr' hkeeps a b p ha hb hA
  refine ⟨_, r.seal_ok A draw a p, fun hsame => ?_, fun hother => ?_⟩
  · refine Ring.open_same (r.seal_ok A draw a p) ?_ (headerVersion_eq_iff.2 h) hsame
    rw [(newRing_eq_ok hr').1]
    exact hkeeps _ _ r.get_current
  · refine Ring.open_other _ _ (r.seal_ok A draw a p) hA fun heq => hother ?_
    obtain ⟨hsame, -⟩ := AAD.bytes_inj (ha.at_version _) (hb.at_version _) heq.symm
    exact ⟨hsame.service, hsame.table, hsame.column, hsame.rowID⟩

/-- A cipher that tells one seal from all others by its tag. -/
def tagged (key nonce ad : Bytes) : Aead :=
  let tag (k n a : Bytes) : Bytes := List.replicate 16 (if k = key ∧ n = nonce ∧ a = ad then 1 else 0)
  { enc k n a p := tag k n a ++ p
    dec k n a c := if c.take 16 = tag k n a then some (c.drop 16) else none
    dec_enc k n a p := by simp [tag]
    length_enc k n a p := by rw [List.length_append, List.length_replicate, Nat.add_comm] }

theorem tagged_authentic : (tagged key nonce ad).Authentic key nonce ad p := by
  intro k n a q h
  by_contra hne
  simp [tagged, hne] at h

def zeroDraw : Draw := ⟨List.replicate 32 0, List.replicate 12 0, List.replicate 12 0, rfl, rfl, rfl⟩

theorem fits_of_opensOnlyInRow (hr : newRing keys current = .ok r) (h : OpensOnlyInRow r) : Fits r.current := by
  by_contra hfits
  have hA : (tagged r.kek zeroDraw.wrapNonce (r.sealedAAD ⟨[], [], [], [], 0⟩)).Authentic r.kek zeroDraw.wrapNonce
      (r.sealedAAD ⟨[], [], [], [], 0⟩) zeroDraw.dek := tagged_authentic
  have hfree : AAD.NulFree ⟨[], [], [], [], 0⟩ := ⟨by simp, by simp, by simp, by simp⟩
  obtain ⟨envelope, hseal, hopens, -⟩ := h _ zeroDraw keys current r hr
    (fun v kek hkek => (newRing_eq_ok hr).1 ▸ hkek) _ _ [] hfree hfree hA
  obtain ⟨e, herror⟩ := Ring.open_other r ⟨[], [], [], [], 0⟩ hseal hA fun heq => by
    obtain ⟨-, hversion⟩ := AAD.bytes_inj (hfree.at_version _) (hfree.at_version _) heq
    exact hfits (headerVersion_eq_iff.1 hversion)
  rw [hopens ⟨rfl, rfl, rfl, rfl⟩] at herror
  cases herror

/-- **A ring's fields open only in their rows exactly when its current version fits the header.** -/
theorem opensOnlyInRow_iff (h : newRing keys current = .ok r) : OpensOnlyInRow r ↔ Fits current := by
  rw [← (newRing_eq_ok h).2]
  exact ⟨fits_of_opensOnlyInRow h, opensOnlyInRow_of_fits⟩

namespace Sample

/-- One key of 32 bytes under a version. -/
def oneKey (v : Int64) : KeySet := ⟨[(v, List.replicate 32 7)], List.nodup_singleton _⟩

def row : AAD := ⟨[97], [116], [99], [49], 0⟩

def ring (v : Int64) : Ring := ⟨oneKey v, v, by simp [oneKey, keySize], by simp [oneKey, KeySet.get]⟩

end Sample

theorem opensOnlyInRow_one : newRing (Sample.oneKey 1) 1 = .ok (Sample.ring 1) ∧ OpensOnlyInRow (Sample.ring 1) :=
  have hring : newRing (Sample.oneKey 1) 1 = .ok (Sample.ring 1) := rfl
  ⟨hring, (opensOnlyInRow_iff hring).2 (by decide)⟩

/-- **A field that its own row cannot open**: the version -1 is accepted, written as `2 ^ 32 - 1`, and
not found again. -/
theorem sealed_never_opens :
    newRing (Sample.oneKey (-1)) (-1) = .ok (Sample.ring (-1)) ∧
      ((Sample.ring (-1)).seal (tagged [] [] []) zeroDraw Sample.row [1] >>=
        (Sample.ring (-1)).open (tagged [] [] []) Sample.row) = .error .keyVersionUnavailable :=
  ⟨rfl, rfl⟩

end Seev.Cryptox
