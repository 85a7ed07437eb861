import SecretStore.Text.Unencodable

/-!
A text has bytes if each of its code points has. In UTF-8 a text without surrogates
has those of its characters.
-/

namespace SecretStore.Text

theorem mapM_eq_none_iff {α β : Type} {f : α → Option β} {as : List α} :
    as.mapM f = none ↔ ∃ a ∈ as, f a = none := by
  induction as with
  | nil => simp
  | cons a rest ih => cases first : f a <;> cases others : rest.mapM f <;> simp_all

theorem encodeBy_ok_iff {bytes? : CodePoint → Option Bytes} {t : Text} :
    (∃ bs, encodeBy bytes? t = .ok bs) ↔ ∀ p ∈ t.points, bytes? p ≠ none := by
  rw [encodeBy]
  cases each : t.points.mapM bytes? with
  | none =>
    obtain ⟨p, member, refused⟩ := mapM_eq_none_iff.mp each
    simp only [reduceCtorEq, exists_false, false_iff]
    exact fun all => all p member refused
  | some bytes =>
    simp only [Except.ok.injEq, exists_eq', true_iff]
    intro p member refused
    rw [mapM_eq_none_iff.mpr ⟨p, member, refused⟩] at each
    cases each

theorem bytes_encodeBy {bytes? : CodePoint → Option Bytes} {t : Text} {bs : Bytes}
    (encoded : encodeBy bytes? t = .ok bs) :
    bs = t.points.flatMap fun p => (bytes? p).getD [] := by
  have bytes {ps : List CodePoint} {parts : List Bytes} (all : ps.mapM bytes? = some parts) :
      parts.flatten = ps.flatMap fun p => (bytes? p).getD [] := by
    induction ps generalizing parts with
    | nil =>
      cases all
      rfl
    | cons p rest ih =>
      rw [List.mapM_cons] at all
      obtain ⟨first, named, all⟩ := Option.bind_eq_some_iff.mp all
      obtain ⟨others, rest_all, all⟩ := Option.bind_eq_some_iff.mp all
      cases all
      rw [List.flatten_cons, List.flatMap_cons, named, ih rest_all]
      rfl
  rw [encodeBy] at encoded
  split at encoded
  · next all =>
    cases encoded
    exact bytes all
  · cases encoded

theorem mapM_pointBytes (cs : List Char) :
    (cs.map CodePoint.char).mapM pointBytes? = some (cs.map Utf8.encodeChar) := by
  induction cs with
  | nil => rfl
  | cons c cs ih =>
    rw [List.map_cons, List.mapM_cons, ih]
    rfl

@[simp] theorem encode_ofChars (cs : List Char) :
    encode (ofChars cs) = .ok (Utf8.encodeChars cs) := by
  rw [encode, encodeBy, ofChars, mapM_pointBytes, Utf8.encodeChars, List.flatMap_def]

@[simp] theorem encode_ofString (s : String) : encode (ofString s) = .ok (Utf8.encode s) :=
  encode_ofChars s.toList

def IsWhole (t : Text) : Prop :=
  ofChars t.shown = t

instance (t : Text) : Decidable t.IsWhole :=
  inferInstanceAs (Decidable (_ = _))

@[simp] theorem isWhole_ofChars (cs : List Char) : (ofChars cs).IsWhole := by
  rw [IsWhole, shown_ofChars]

@[simp] theorem isWhole_ofString (s : String) : (ofString s).IsWhole :=
  isWhole_ofChars s.toList

theorem IsWhole.append {s t : Text} (first : s.IsWhole) (second : t.IsWhole) :
    (s ++ t).IsWhole := by
  rw [IsWhole] at first second
  rw [← first, ← second]
  have joined : ofChars s.shown ++ ofChars t.shown = ofChars (s.shown ++ t.shown) :=
    ext (by simp [ofChars])
  rw [joined]
  exact isWhole_ofChars _

theorem IsWhole.encode {t : Text} (whole : t.IsWhole) :
    Text.encode t = .ok (Utf8.encodeChars t.shown) := by
  have encoded := encode_ofChars t.shown
  rwa [whole] at encoded

end SecretStore.Text
