import Chancela.Crates.Basic
import Mathlib.Data.List.Basic

/-! # Certificate identifiers of OCSP responses

A small walker over DER takes the identifiers of certificates out of an OCSP response, and nothing
else: the status beside an identifier is read by no one. It is read here only to say what the
response says of a certificate.
-/

namespace Chancela.Pades

/-- The number of bytes behind a length byte, and where they start. -/
def derLength (bytes : List UInt8) (lenByte : UInt8) : Option (Nat × Nat) :=
  if lenByte < 0x80 then some (2, lenByte.toNat)
  else
    let n := (lenByte &&& 0x7f).toNat
    if n = 0 ∨ 4 < n ∨ bytes.length < 2 + n then none
    else some (2 + n, ((bytes.drop 2).take n).foldl (fun len byte => len <<< 8 ||| byte.toNat) 0)

/-- `der_tlv`: the tag and the content of the value at the front, and what stands behind. -/
def derTlv : List UInt8 → Option (UInt8 × List UInt8 × List UInt8)
  | tag :: lenByte :: rest => do
      let bytes := tag :: lenByte :: rest
      let (start, len) ← derLength bytes lenByte
      if bytes.length < start + len then none
      else some (tag, (bytes.drop start).take len, bytes.drop (start + len))
  | _ => none

variable {tag : UInt8}

theorem length_of_derTlv {bytes content rest : List UInt8}
    (read : derTlv bytes = some (tag, content, rest)) : rest.length < bytes.length := by
  unfold derTlv at read
  split at read
  swap
  · cases read
  rename_i tag' lenByte rest'
  dsimp only at read
  cases length : derLength (tag' :: lenByte :: rest') lenByte with
  | none =>
      rw [length] at read
      cases read
  | some place =>
      obtain ⟨start, len⟩ := place
      have within : 2 ≤ start := by
        unfold derLength at length
        dsimp only at length
        split at length
        · cases length
          exact le_rfl
        · split at length
          · cases length
          · cases length
            exact Nat.le_add_right _ _
      rw [length] at read
      dsimp only [Option.bind_eq_bind, Option.bind_some] at read
      split at read
      · cases read
      · cases read
        rw [List.length_drop]
        simp only [List.length_cons]
        omega

def derChildren (content : List UInt8) : List (UInt8 × List UInt8) :=
  match read : derTlv content with
  | none => []
  | some (tag, value, rest) =>
      have := length_of_derTlv read
      (tag, value) :: derChildren rest
termination_by content.length

def tlv (tag : UInt8) (content : List UInt8) : List UInt8 :=
  if content.length < 128 then tag :: UInt8.ofNat content.length :: content
  else tag :: 0x81 :: UInt8.ofNat content.length :: content

variable {content rest : List UInt8}

theorem derTlv_tlv (small : content.length < 256) :
    derTlv (tlv tag content ++ rest) = some (tag, content, rest) := by
  have number : (UInt8.ofNat content.length).toNat = content.length :=
    UInt8.toNat_ofNat_of_lt' small
  unfold tlv
  split
  · rename_i short
    have low : UInt8.ofNat content.length < 0x80 := by
      rw [UInt8.lt_iff_toNat_lt, number]
      exact short
    rw [List.cons_append, List.cons_append, derTlv, derLength, if_pos low, number]
    dsimp only [Option.bind_eq_bind, Option.bind_some]
    rw [if_neg]
    · rw [Nat.add_comm 2, List.drop_succ_cons, List.drop_succ_cons, List.drop_zero,
        List.take_left', List.drop_succ_cons, List.drop_succ_cons, List.drop_left']
      · rfl
      · rfl
    · simp only [List.length_cons, List.length_append]
      omega
  · have long : derLength (tag :: 0x81 :: UInt8.ofNat content.length :: (content ++ rest)) 0x81 =
        some (3, content.length) := by
      rw [derLength, if_neg (show ¬(0x81 : UInt8) < 0x80 by decide)]
      dsimp only
      rw [if_neg]
      · change some (3, 0 <<< 8 ||| (UInt8.ofNat content.length).toNat) = _
        rw [Nat.zero_shiftLeft, Nat.zero_or, number]
      · rw [not_or, not_or]
        refine ⟨by decide, by decide, ?_⟩
        exact Nat.not_lt.mpr (Nat.le_add_left 3 _)
    rw [List.cons_append, List.cons_append, List.cons_append, derTlv]
    dsimp only
    rw [long]
    dsimp only [Option.bind_eq_bind, Option.bind_some]
    rw [if_neg]
    · rw [Nat.add_comm 3, List.drop_succ_cons, List.drop_succ_cons, List.drop_succ_cons,
        List.drop_zero, List.take_left', List.drop_succ_cons, List.drop_succ_cons,
        List.drop_succ_cons, List.drop_left']
      · rfl
      · rfl
    · simp only [List.length_cons, List.length_append]
      omega

theorem derTlv_tlv_alone {content : List UInt8} (small : content.length < 256) :
    derTlv (tlv tag content) = some (tag, content, []) := by
  rw [← List.append_nil (tlv tag content), derTlv_tlv small]

theorem length_tlv (tag : UInt8) (content : List UInt8) :
    (tlv tag content).length ≤ content.length + 3 := by
  unfold tlv
  split
  · exact Nat.le_succ _
  · exact le_rfl

theorem derChildren_nil : derChildren [] = [] := by
  rw [derChildren]
  rfl

theorem derChildren_tlv (small : content.length < 256) :
    derChildren (tlv tag content ++ rest) = (tag, content) :: derChildren rest := by
  rw [derChildren]
  split
  · rename_i unread
    rw [derTlv_tlv small] at unread
    cases unread
  · rename_i read
    rw [derTlv_tlv small] at read
    cases read
    rfl

theorem derChildren_tlv_alone {content : List UInt8} (small : content.length < 256) :
    derChildren (tlv tag content) = [(tag, content)] := by
  rw [← List.append_nil (tlv tag content), derChildren_tlv small, derChildren_nil]

def derChild (tag : UInt8) (content : List UInt8) : Option (List UInt8) :=
  ((derChildren content).find? (·.1 = tag)).map Prod.snd

theorem derChild_tlv (small : content.length < 256) :
    derChild tag (tlv tag content ++ rest) = some content := by
  unfold derChild
  rw [derChildren_tlv small, List.find?_cons_of_pos, Option.map_some]
  exact decide_eq_true rfl

theorem derChild_tlv_alone {content : List UInt8} (small : content.length < 256) :
    derChild tag (tlv tag content) = some content := by
  rw [← List.append_nil (tlv tag content), derChild_tlv small]

theorem derChild_tlv_of_ne {tag other : UInt8} (small : content.length < 256) (apart : other ≠ tag) :
    derChild tag (tlv other content ++ rest) = derChild tag rest := by
  unfold derChild
  rw [derChildren_tlv small, List.find?_cons_of_neg]
  exact fun same => apart (of_decide_eq_true same)

structure OcspCertId where
  algOid : List UInt8
  nameHash : List UInt8
  keyHash : List UInt8
  serial : List UInt8
deriving DecidableEq

def parseCertid (content : List UInt8) : Option OcspCertId := do
  let alg ← derChild 0x30 content
  let algOid ← derChild 0x06 alg
  match ((derChildren content).filter (·.1 = 0x04)).map Prod.snd with
  | nameHash :: keyHash :: _ => do
      let serial ← derChild 0x02 content
      return ⟨algOid, nameHash, keyHash, serial⟩
  | _ => none

def ocspResponses (der : List UInt8) : Option (List (UInt8 × List UInt8)) := do
  let (_, ocsp, _) ← derTlv der
  let responseBytes ← derChild 0xA0 ocsp
  let (_, rb, _) ← derTlv responseBytes
  let basicOctet ← derChild 0x04 rb
  let (_, basic, _) ← derTlv basicOctet
  let (tbsTag, tbs, _) ← derTlv basic
  if tbsTag ≠ 0x30 then none
  else
    let responses ← derChild 0x30 tbs
    return derChildren responses

def certidOf (single : UInt8 × List UInt8) : Option OcspCertId :=
  if single.1 ≠ 0x30 then none
  else
    match (derChildren single.2).head? with
    | some (tag, certid) => if tag = 0x30 then parseCertid certid else none
    | none => none

def ocspCertids (der : List UInt8) : List OcspCertId :=
  ((ocspResponses der).getD []).filterMap certidOf

/-- The status of a single response, behind its identifier: 0x80 stands for good, 0xA1 for revoked
and 0x82 for unknown. -/
def statusOf (single : UInt8 × List UInt8) : Option UInt8 :=
  ((derChildren single.2).tail.head?).map Prod.fst

def normSerial : List UInt8 → List UInt8
  | byte :: other :: rest => if byte = 0 then normSerial (other :: rest) else byte :: other :: rest
  | serial => serial

end Chancela.Pades
