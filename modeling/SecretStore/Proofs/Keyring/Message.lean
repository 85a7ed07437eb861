import Mathlib.Data.List.Basic
import SecretStore.Proofs.Keyring.Verdict
import SecretStore.Proofs.Text.Quoted

/-!
The texts of errors. That of a missing key is one printable line, and it tells the service
and the key. That of a failure tells the operation, the service, the key if there is one,
and what the store said.
-/

namespace SecretStore

open Text

theorem toList_quoted (s : Text) : (quoted s).toList = quotePoints s.points :=
  String.toList_ofList

theorem quotePoints_text {s t : Text} {rest rest' : List CodePoint}
    (same : (quotePoints s.points).map .char ++ rest = (quotePoints t.points).map .char ++ rest') :
    s = t ∧ rest = rest' := by
  -- one of the two goes on behind the other, by characters, of which there are then none
  rcases List.append_eq_append_iff.mp same with ⟨more, longer, behind⟩ | ⟨more, longer, behind⟩
  · obtain ⟨front, back, whole, front_same, rfl⟩ := List.map_eq_append_iff.mp longer
    rw [(List.map_inj_right fun _ _ => CodePoint.char.inj).mp front_same] at whole
    obtain ⟨names, none_left⟩ := quotePoints_inj ((List.append_nil _).trans whole)
    rw [behind, ← none_left]
    exact ⟨Text.ext names.symm, rfl⟩
  · obtain ⟨front, back, whole, front_same, rfl⟩ := List.map_eq_append_iff.mp longer
    rw [(List.map_inj_right fun _ _ => CodePoint.char.inj).mp front_same] at whole
    obtain ⟨names, none_left⟩ := quotePoints_inj ((List.append_nil _).trans whole)
    rw [behind, ← none_left]
    exact ⟨Text.ext names, rfl⟩

theorem isPrintable_keyNotFoundMessage (service key : Text) :
    ∀ c ∈ (keyNotFoundMessage service key).toList, isPrintable c = true := by
  have first : ∀ c ∈ "key ".toList, isPrintable c = true :=
    List.all_eq_true.mp (by decide +kernel)
  have second : ∀ c ∈ " not found in service ".toList, isPrintable c = true :=
    List.all_eq_true.mp (by decide +kernel)
  simp only [keyNotFoundMessage, String.toList_append, toList_quoted, List.forall_mem_append]
  exact ⟨⟨⟨first, isPrintable_quotePoints _⟩, second⟩, isPrintable_quotePoints _⟩

theorem keyNotFoundMessage_inj {service service' key key' : Text}
    (same : keyNotFoundMessage service key = keyNotFoundMessage service' key') :
    service = service' ∧ key = key' := by
  have texts := congrArg String.toList same
  simp only [keyNotFoundMessage, String.toList_append, toList_quoted, List.append_assoc] at texts
  obtain ⟨keys, behind⟩ := quotePoints_inj (List.append_cancel_left texts)
  have ends : quotePoints service.points ++ [] = quotePoints service'.points ++ [] := by
    rw [List.append_nil, List.append_nil]
    exact List.append_cancel_left behind
  exact ⟨Text.ext (quotePoints_inj ends).1, Text.ext keys⟩

namespace StoreFailure

def quotedText (s : Text) : List CodePoint :=
  (quotePoints s.points).map .char

def keyText : Option Text → List CodePoint
  | none => []
  | some key => ", key=".toList.map .char ++ quotedText key

def detailText (detail : Text) : List CodePoint :=
  if detail = "" then [] else ": ".toList.map .char ++ detail.points

theorem points_message (f : StoreFailure) : f.message.points =
    f.operation.toList.map .char ++ .char ' ' :: ("failed (service=".toList.map .char ++
      (quotedText f.service ++ (keyText f.key ++ .char ')' :: detailText f.detail))) := by
  obtain ⟨operation, service, key, detail⟩ := f
  have ending : (if detail = "" then ("" : Text) else ": " ++ detail).points =
      detailText detail := by
    rw [detailText]
    split <;> rfl
  have quoted_points (s : Text) : (quoted s).toList.map CodePoint.char = quotedText s := by
    rw [toList_quoted, quotedText]
  cases key with
  | none =>
    simp only [message, Text.points_append, Text.points_ofString, String.toList_append,
      String.append_empty, List.map_append, quoted_points, ending, keyText, List.append_assoc,
      List.nil_append]
    rfl
  | some key =>
    simp only [message, Text.points_append, Text.points_ofString, String.toList_append,
      List.map_append, quoted_points, ending, keyText, List.append_assoc]
    rfl

theorem keyText_inj {key key' : Option Text} {rest rest' : List CodePoint}
    (same : keyText key ++ .char ')' :: rest = keyText key' ++ .char ')' :: rest') :
    key = key' ∧ rest = rest' := by
  cases key with
  | none =>
    cases key' with
    | none => exact ⟨rfl, (List.cons.inj same).2⟩
    | some key' => cases (List.cons.inj same).1
  | some key =>
    cases key' with
    | none => cases (List.cons.inj same).1
    | some key' =>
      simp only [keyText, quotedText, List.append_assoc] at same
      obtain ⟨rfl, behind⟩ := quotePoints_text (List.append_cancel_left same)
      exact ⟨rfl, (List.cons.inj behind).2⟩

theorem detailText_inj {detail detail' : Text} (same : detailText detail = detailText detail') :
    detail = detail' := by
  rw [detailText, detailText] at same
  split at same <;> split at same
  · next none none' => exact none.trans none'.symm
  · cases same
  · cases same
  · exact Text.ext (List.append_cancel_left same)

theorem space_notMem_name (o : Operation) : ' ' ∉ o.name.toList := by
  cases o with
  | get => exact (by decide : ' ' ∉ "get".toList)
  | metadata => exact (by decide : ' ' ∉ "get_metadata".toList)
  | set => exact (by decide : ' ' ∉ "set".toList)
  | remove => exact (by decide : ' ' ∉ "remove".toList)
  | keys => exact (by decide : ' ' ∉ "keys".toList)

theorem word_inj {word word' : List Char} {rest rest' : List CodePoint} (plain : ' ' ∉ word)
    (plain' : ' ' ∉ word')
    (same : word.map .char ++ .char ' ' :: rest = word'.map .char ++ .char ' ' :: rest') :
    word = word' ∧ rest = rest' := by
  induction word generalizing word' with
  | nil =>
    cases word' with
    | nil => exact ⟨rfl, (List.cons.inj same).2⟩
    | cons c word' =>
      exact absurd (CodePoint.char.inj (List.cons.inj same).1 ▸ List.mem_cons_self) plain'
  | cons c word ih =>
    cases word' with
    | nil => exact absurd (CodePoint.char.inj (List.cons.inj same).1 ▸ List.mem_cons_self) plain
    | cons d word' =>
      obtain ⟨first, behind⟩ := List.cons.inj same
      cases CodePoint.char.inj first
      obtain ⟨rfl, after⟩ := ih (List.not_mem_of_not_mem_cons plain)
        (List.not_mem_of_not_mem_cons plain') behind
      exact ⟨rfl, after⟩

theorem message_inj {f f' : StoreFailure} {o o' : Operation} (named : f.operation = o.name)
    (named' : f'.operation = o'.name) (same : f.message = f'.message) : f = f' := by
  have texts := congrArg Text.points same
  rw [points_message, points_message] at texts
  -- the operation ends at the first blank, the service and the key where their quotes end
  obtain ⟨operation, behind⟩ :=
    word_inj (named ▸ space_notMem_name o) (named' ▸ space_notMem_name o') texts
  obtain ⟨service, behind⟩ := quotePoints_text (List.append_cancel_left behind)
  obtain ⟨key, detail⟩ := keyText_inj behind
  obtain ⟨_, _, _, _⟩ := f
  obtain ⟨_, _, _, _⟩ := f'
  cases String.toList_inj.mp operation
  cases service
  cases key
  cases detailText_inj detail
  rfl

end StoreFailure

/-- The texts of errors are told apart. That of a missing key is printable throughout, so
it is a single line, and no two of them are the same. Nor are those of two failures of
operations: each tells the operation, the service, the key or that there is none, and what
the store said. -/
theorem error_texts_tell :
    (∀ service key, ∀ p ∈ (KeyringError.keyNotFound service key).message.points,
      ∃ c, p = .char c ∧ isPrintable c = true) ∧
    (∀ service service' key key', (KeyringError.keyNotFound service key).message =
      (KeyringError.keyNotFound service' key').message → service = service' ∧ key = key') ∧
    ∀ (f f' : StoreFailure) (o o' : Operation), f.operation = o.name → f'.operation = o'.name →
      f.message = f'.message → f = f' := by
  refine ⟨fun service key p member => ?_, fun service service' key key' same => ?_,
    fun _ _ _ _ => StoreFailure.message_inj⟩
  · obtain ⟨c, inside, rfl⟩ := List.mem_map.mp member
    exact ⟨c, rfl, isPrintable_keyNotFoundMessage service key c inside⟩
  · exact keyNotFoundMessage_inj (Text.ofString_inj.mp same)

/-- A key that breaks its line, a service that imitates the text which names a key, and a
key that is empty. -/
theorem error_texts_tell_imitated :
    let missing := (KeyringError.keyNotFound "s" "a\nb").message
    let imitation : StoreFailure := ⟨"get", "s', key='", none, "gone"⟩
    let absent : StoreFailure := ⟨"get", "s", none, "gone"⟩
    let empty : StoreFailure := ⟨"get", "s", some "", "gone"⟩
    (missing = "key 'a\\nb' not found in service 's'" ∧
      (∀ p ∈ missing.points, ∃ c, p = .char c ∧ Text.isPrintable c = true) ∧
      ∀ service key, missing = (KeyringError.keyNotFound service key).message →
        service = "s" ∧ key = "a\nb") ∧
    (empty.message = "get failed (service='s', key=''): gone" ∧
      empty.operation = (Operation.get "").name ∧ empty.message = empty.message ∧ empty = empty) ∧
    imitation.message ≠ empty.message ∧ absent.message ≠ empty.message := by
  refine ⟨⟨by decide +kernel, error_texts_tell.1 "s" "a\nb", fun service key same => ?_⟩,
    ⟨by decide +kernel, rfl, rfl, error_texts_tell.2.2 _ _ (.get "") (.get "") rfl rfl rfl⟩,
    fun same => ?_, fun same => ?_⟩
  · obtain ⟨rfl, rfl⟩ := error_texts_tell.2.1 "s" service "a\nb" key same
    exact ⟨rfl, rfl⟩
  · have failure := error_texts_tell.2.2 _ _ (.get "") (.get "") rfl rfl same
    exact absurd (congrArg StoreFailure.service failure) (by decide)
  · have failure := error_texts_tell.2.2 _ _ (.get "") (.get "") rfl rfl same
    exact absurd (congrArg StoreFailure.key failure) (by decide)

end SecretStore
