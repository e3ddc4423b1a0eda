import EstateFiling.Proofs.Json.Records
import EstateFiling.Proofs.Text.Trimming
import EstateFiling.Proofs.Text.Utf8
import EstateFiling.Service.Routes
import Mathlib.Data.List.TakeWhile

/-!
# Requests for a document

A request asks for a kind of document by its path and carries a case in its body.  Any text can
be asked for as a kind: it can be written into a path byte by byte
(`Percent.decode?_encode`, `Request.asksFor_ofCase`).  What a request that asks for a kind and
carries a case is answered with is what the service renders (`Service.respond_of_asksFor`).
-/

namespace EstateFiling

/-- What a text holds as a whole is at its front. -/
theorem Json.decodeFront_of_decodeText {α : Type} {decode : Decoder α} {text : String} {a : α}
    (h : decodeText decode text = .ok a) : decodeFront decode text = .ok a := by
  obtain ⟨a', decoded, whole⟩ := exists_of_bind_ok h
  split at whole
  · exact decoded.trans whole
  · cases whole

/-! ## Kinds in a path -/

namespace Percent

/-- The character of a hexadecimal digit. -/
def hexChar (digit : Nat) : Char := Char.ofNat (if digit < 10 then 48 + digit else 55 + digit)

/-- A byte as a percent sign and two hexadecimal digits. -/
def encodeByte (b : UInt8) : List Char :=
  ['%', hexChar (b.toNat / 16), hexChar (b.toNat % 16)]

/-- A text as a part of a path, every byte of it encoded. -/
def encode (s : String) : String := String.ofList ((Text.toUtf8 s).flatMap encodeByte)

/-- A hexadecimal digit is one byte, and neither ends a part of a path nor the path. -/
theorem hexChar_spec (digit : Nat) (h : digit < 16) :
    ∃ b, String.utf8EncodeChar (hexChar digit) = [b] ∧ hexDigit? b = some (UInt8.ofNat digit)
      ∧ hexChar digit ≠ '/' ∧ hexChar digit ≠ '?' ∧ hexChar digit ≠ '#' := by
  have digits : ∀ d : Fin 16, (hexChar d).toNat < 128
      ∧ hexDigit? (UInt8.ofNat (hexChar d).toNat) = some (UInt8.ofNat d)
      ∧ hexChar d ≠ '/' ∧ hexChar d ≠ '?' ∧ hexChar d ≠ '#' := by decide
  obtain ⟨ascii, value, inside⟩ := digits ⟨digit, h⟩
  exact ⟨_, Text.utf8EncodeChar_of_lt ascii, value, inside⟩

theorem decodeBytes_encodeByte (b : UInt8) (rest : List UInt8) :
    decodeBytes ((encodeByte b).flatMap String.utf8EncodeChar ++ rest) = b :: decodeBytes rest := by
  have size : b.toNat < 256 := b.toNat_lt
  obtain ⟨high, highByte, highValue, _⟩ := hexChar_spec (b.toNat / 16) (by omega)
  obtain ⟨low, lowByte, lowValue, _⟩ := hexChar_spec (b.toNat % 16) (by omega)
  have percent : String.utf8EncodeChar '%' = [37] := by decide
  have value : 16 * UInt8.ofNat (b.toNat / 16) + UInt8.ofNat (b.toNat % 16) = b := by
    apply UInt8.toNat_inj.mp
    simp only [UInt8.toNat_add, UInt8.toNat_mul, UInt8.toNat_ofNat', UInt8.reduceToNat]
    omega
  simp only [encodeByte, List.flatMap_cons, List.flatMap_nil, percent, highByte, lowByte,
    List.cons_append, List.nil_append, decodeBytes, highValue, lowValue, value]

/-- Every text is what a part of a path stands for. -/
theorem decode?_encode (s : String) : decode? (encode s) = some s := by
  have bytes : ∀ bs : List UInt8,
      decodeBytes ((bs.flatMap encodeByte).flatMap String.utf8EncodeChar) = bs := by
    intro bs
    induction bs with
    | nil => rfl
    | cons b bs ih => rw [List.flatMap_cons, List.flatMap_append, decodeBytes_encodeByte, ih]
  rw [decode?, encode, Text.toUtf8_ofList, bytes, Text.ofUtf8?_toUtf8]

/-- What is encoded is one part of a path. -/
theorem not_mem_encode (s : String) : ∀ c ∈ (encode s).toList, c ≠ '/' ∧ c ≠ '?' ∧ c ≠ '#' := by
  intro c hc
  rw [encode, String.toList_ofList] at hc
  obtain ⟨b, _, hc⟩ := List.mem_flatMap.mp hc
  have size : b.toNat < 256 := b.toNat_lt
  obtain ⟨_, _, _, high⟩ := hexChar_spec (b.toNat / 16) (by omega)
  obtain ⟨_, _, _, low⟩ := hexChar_spec (b.toNat % 16) (by omega)
  simp only [encodeByte, List.mem_cons, List.not_mem_nil, or_false] at hc
  rcases hc with rfl | rfl | rfl
  · decide
  · exact high
  · exact low

end Percent

/-! ## Requests -/

namespace Request

/-- A request asks for a kind of document: it posts to a path whose last part stands for the
name of the kind. -/
structure AsksFor (r : Request) (kind : String) : Prop where
  /-- It posts. -/
  posted : r.method = "POST"
  /-- The last part of the path stands for the name. -/
  path : ∃ segment, Service.segments r.target = ["", "api", "v1", "documents", segment]
    ∧ segment ≠ "" ∧ Percent.decode? segment = some kind

/-- A request carries the text of a case: it declares data, and the size is admitted. -/
structure Carries (r : Request) (text : String) : Prop where
  /-- The body is declared as data. -/
  declared : r.contentType.any MediaType.isJson = true
  /-- The body is the text. -/
  body : r.body = Text.toUtf8 text
  /-- The body is not too large. -/
  admitted : r.body.length ≤ maxBody

/-- The request that asks for a kind and carries a text. -/
def ofCase (kind text : String) : Request where
  method := "POST"
  target := "/api/v1/documents/" ++ Percent.encode kind
  contentType := some "application/json"
  body := Text.toUtf8 text

variable {r : Request} {kind text : String}

/-- What decodes as a whole is what a request that carries it is about. -/
theorem bundle_of_carries (h : r.Carries text) {b : CaseBundle}
    (decodes : Json.decodeText CaseBundle.decode text = .ok b) : r.bundle = .ok b := by
  have front := Json.decodeFront_of_decodeText decodes
  have size : ¬ maxBody < r.body.length := Nat.not_lt.mpr h.admitted
  unfold bundle
  rw [h.declared, if_neg (by simp), if_neg size, h.body, Text.ofUtf8?_toUtf8]
  simp only [front]

/-- The path of a request for a kind ends in the encoded name. -/
theorem segments_ofCase :
    Service.segments (ofCase kind text).target =
      ["", "api", "v1", "documents", Percent.encode kind] := by
  have front : "/api/v1/documents/".toList =
      [] ++ '/' :: ("api".toList ++ '/' :: ("v1".toList ++ '/' :: ("documents".toList ++ ['/']))) :=
    by decide
  have target : (ofCase kind text).target.toList =
      "/api/v1/documents/".toList ++ (Percent.encode kind).toList := String.toList_append
  have inside := Percent.not_mem_encode kind
  have bare : (ofCase kind text).target.toList.takeWhile (fun c => c != '?' && c != '#') =
      (ofCase kind text).target.toList := by
    rw [List.takeWhile_eq_self_iff, target, List.forall_mem_append]
    refine ⟨List.all_eq_true.mp rfl, fun c hc => ?_⟩
    simp [(inside c hc).2]
  have head : (ofCase kind text).target.toList.head? = some '/' := by
    rw [target, front]
    rfl
  have word (s : String) (h : s.toList.all (· != '/') = true) :
      ∀ c ∈ s.toList, (c == '/') = false :=
    fun c hc => beq_eq_false_iff_ne.mpr (bne_iff_ne.mp (List.all_eq_true.mp h c hc))
  have last : ∀ c ∈ (Percent.encode kind).toList, (c == '/') = false :=
    fun c hc => beq_eq_false_iff_ne.mpr (inside c hc).1
  unfold Service.segments Service.path
  simp only [bare, head, beq_self_eq_true, if_true]
  rw [target, front]
  simp only [List.append_assoc, List.cons_append, List.nil_append]
  rw [Text.splitWhere, if_pos (beq_self_eq_true '/'),
    Text.splitWhere_append_cons (word "api" rfl) rfl,
    Text.splitWhere_append_cons (word "v1" rfl) rfl,
    Text.splitWhere_append_cons (word "documents" rfl) rfl, Text.splitWhere_eq_singleton last]
  simp only [List.map_cons, List.map_nil, String.ofList_toList]

theorem asksFor_ofCase (named : kind ≠ "") : (ofCase kind text).AsksFor kind where
  posted := rfl
  path := by
    refine ⟨_, segments_ofCase, fun empty => named ?_, Percent.decode?_encode kind⟩
    have nothing : Percent.encode "" = "" := by
      rw [Percent.encode, Text.toUtf8_eq_flatMap]
      rfl
    have decoded := Percent.decode?_encode kind
    rw [empty, ← nothing, Percent.decode?_encode] at decoded
    exact (Option.some.inj decoded).symm

theorem carries_ofCase (admitted : (Text.toUtf8 text).length ≤ maxBody) :
    (ofCase kind text).Carries text where
  declared := (by decide : MediaType.isJson "application/json" = true)
  body := rfl
  admitted := admitted

end Request

namespace Service

/-- A request that asks for a kind and carries a case is answered with what is rendered. -/
theorem respond_of_asksFor (s : Service) {r : Request} {kind : String} {b : CaseBundle}
    (asks : r.AsksFor kind) (carries : r.bundle = .ok b) :
    s.respond r =
      match s.render kind b with
      | .error f => .failure f
      | .ok d => .json 200 d.toJson := by
  obtain ⟨posted, segment, path, nonempty, decodes⟩ := asks
  have given : segment.isEmpty = false := by
    rwa [Bool.eq_false_iff, ne_eq, String.isEmpty_iff]
  unfold respond
  rw [path]
  cases rendered : s.render kind b <;>
    simp only [given, posted, document, decodes, carries, rendered, Bool.false_eq_true, if_false,
      beq_self_eq_true, if_true]

end Service

end EstateFiling
