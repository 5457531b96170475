import AeroRisk.Guardrail.RoundedFloat
import AeroRisk.Library.DotProducts
import Mathlib.Data.Rat.Floor

/-!
# Embeddings of orders

An embedding lists ten features of an order, cut off or filled up with zeros
to its dimension.  The floats are those of a rounding which keeps the integers
up to a million, as the doubles and exact arithmetic do.  The similarity of
two embeddings is computed without rounding.
-/

namespace AeroRisk.Guardrail.Agent1

open AeroRisk.Library
open AeroRisk.Library.DotProducts (dot)

/-- The roundings of the features. -/
abbrev FeatureRounding :=
  IntegralRounding 1000000

/-- `hashlib.md5(data).digest()`. -/
abbrev Digest :=
  ByteArray → Vector UInt8 16

variable {rounding : FeatureRounding}

/-! ## Python's arithmetic -/

/-- `numerator / denominator`, for an integer and a float. -/
def quotient (numerator denominator : Int) : rounding.Value :=
  rounding.round (rounding.nearest numerator / rounding.nearest denominator)

/-- `int(value)`: towards zero. -/
def truncate (x : Rat) : Int :=
  if x < 0 then -⌊-x⌋ else ⌊x⌋

/--
`value % modulus`.  What `fmod` leaves has the sign of the value and is exact;
a negative one is moved up, which may round.
-/
def modulo (value : rounding.Value) (modulus : Int) : rounding.Value :=
  let divisor := rounding.nearest modulus
  let rest := value.exact - divisor * truncate (value.exact / divisor)
  if rest < 0 then rounding.round (rest + divisor) else rounding.round rest

/-- `struct.unpack("<I", data)[0]`. -/
def unpackInteger (data : List UInt8) : Nat :=
  data.foldr (fun byte rest => byte.toNat + 256 * rest) 0

/-! ## Features -/

/-- The features of the first bytes of a digest, four bytes each. -/
def hashFeatures (limit : Nat) (digest : List UInt8) :
    List rounding.Value :=
  (List.range ((min limit digest.length + 3) / 4)).map fun block =>
    let val := unpackInteger ((digest.drop (4 * block)).take 4)
    quotient (val % 1000 : Nat) 1000

/-- The normalized price, and the normalized quantity. -/
def sizeFeature (value : Int) : rounding.Value :=
  if 0 < value then
    atMostOne (quotient (value % 1000000) 1000000)
  else
    0.0

/-- The hour of the day. -/
def hourFeature (timestamp : rounding.Value) : rounding.Value :=
  let seconds : rounding.Value := modulo timestamp 86400
  let hours : rounding.Value :=
    rounding.round (seconds.exact / rounding.nearest (3600 : Int))
  quotient (truncate hours.exact) 24

/-- `EmbeddingGenerator`. -/
structure EmbeddingGenerator where
  embeddingDim : Int := 128

namespace EmbeddingGenerator

/-- `features[:stop]`; a negative stop counts from the end. -/
def slice {α : Type} (items : List α) (stop : Int) : List α :=
  if 0 ≤ stop then
    items.take stop.toNat
  else
    items.take (items.length + stop).toNat

variable (generator : EmbeddingGenerator)

/-- `generate_order_embedding`. -/
def generateOrderEmbedding (md5 : Digest) (accountID symbol side : String)
    (price quantity : Int) (timestamp : rounding.Value) :
    List rounding.Value :=
  let features : List rounding.Value :=
    hashFeatures 16 (md5 accountID.toUTF8).toList ++
      hashFeatures 8 (md5 symbol.toUTF8).toList ++
        [ if side = "BUY" then 1.0 else 0.0,
          sizeFeature price,
          sizeFeature quantity,
          hourFeature timestamp ]
  let padding := (generator.embeddingDim - features.length).toNat
  slice (features ++ List.replicate padding 0.0) generator.embeddingDim

end EmbeddingGenerator

/-- `cosine_similarity`, on real numbers. -/
noncomputable def cosineSimilarity (emb1 emb2 : List ℝ) :
    Except String ℝ :=
  if emb1.length ≠ emb2.length then
    .error "Embeddings must have same dimension"
  else
    let dotProduct := dot emb1 emb2
    let norm1 := √(emb1.map fun a => a * a).sum
    let norm2 := √(emb2.map fun b => b * b).sum
    if norm1 = 0 ∨ norm2 = 0 then
      .ok 0
    else if norm1 * norm2 = 0 then
      .error "float division by zero"
    else
      .ok (dotProduct / (norm1 * norm2))

/-! ## Features are fractions -/

/-- The number is between zero and one. -/
def InUnit (value : rounding.Value) : Prop :=
  0 ≤ value.exact ∧ value.exact ≤ 1

theorem inUnit_zero : InUnit (0.0 : rounding.Value) := by
  rw [InUnit, exact_zero]
  exact ⟨le_refl 0, zero_le_one⟩

theorem inUnit_one : InUnit (1.0 : rounding.Value) := by
  rw [InUnit, exact_one]
  exact ⟨zero_le_one, le_refl 1⟩

/-- A rounded number stays below an integer of the format. -/
theorem nearest_le_int {x : Rat} {n : Int} (small : n.natAbs ≤ 1000000)
    (below : x ≤ n) : rounding.nearest x ≤ n := by
  rw [← rounding.nearest_int n small]
  exact rounding.monotone below

theorem inUnit_round {x : Rat} (nonneg : 0 ≤ x) (atMost : x ≤ 1) :
    InUnit (rounding.round x) := by
  refine ⟨Rounding.nearest_nonneg nonneg, ?_⟩
  rw [Rounding.exact_round, ← rounding.nearest_one]
  exact rounding.monotone atMost

/-- A quotient of integers of the format which is a fraction. -/
theorem inUnit_quotient {numerator denominator : Int}
    (nonneg : 0 ≤ numerator) (atMost : numerator ≤ denominator)
    (positive : 0 < denominator) (small : denominator ≤ 1000000) :
    InUnit (quotient numerator denominator : rounding.Value) := by
  rw [quotient, rounding.nearest_int numerator (by omega),
    rounding.nearest_int denominator (by omega)]
  have denominatorPos : (0 : Rat) < denominator := by exact_mod_cast positive
  apply inUnit_round
  · exact div_nonneg (by exact_mod_cast nonneg) denominatorPos.le
  · rw [div_le_one denominatorPos]
    exact_mod_cast atMost

theorem inUnit_atMostOne {value : rounding.Value} (inUnit : InUnit value) :
    InUnit (atMostOne value) := by
  rw [InUnit, exact_atMostOne]
  exact ⟨le_min inUnit.1 zero_le_one, min_le_right _ _⟩

theorem inUnit_hashFeatures {limit : Nat} {digest : List UInt8} :
    ∀ feature ∈ (hashFeatures limit digest : List rounding.Value),
      InUnit feature := by
  intro feature member
  rcases List.mem_map.mp member with ⟨block, _, rfl⟩
  apply inUnit_quotient
  · omega
  · omega
  · decide
  · decide

theorem inUnit_sizeFeature (value : Int) :
    InUnit (sizeFeature value : rounding.Value) := by
  rw [sizeFeature]
  split
  · apply inUnit_atMostOne
    apply inUnit_quotient
    · omega
    · omega
    · decide
    · decide
  · exact inUnit_zero

/-! ### The hour of the day -/

/-- What is cut off is less than one, on the side of the number. -/
theorem truncate_spec (x : Rat) :
    -1 < x - truncate x ∧ x - truncate x < 1 := by
  rw [truncate]
  split
  · have low := Int.floor_le (-x)
    have high := Int.lt_floor_add_one (-x)
    push_cast
    constructor <;> linarith
  · have low := Int.floor_le x
    have high := Int.lt_floor_add_one x
    constructor <;> linarith

/-- A remainder is not negative, and at most the modulus. -/
theorem modulo_spec (value : rounding.Value) {modulus : Int}
    (positive : 0 < modulus) (small : modulus ≤ 1000000) :
    0 ≤ (modulo value modulus).exact ∧
      (modulo value modulus).exact ≤ modulus := by
  have modulusPos : (0 : Rat) < modulus := by exact_mod_cast positive
  rw [modulo, rounding.nearest_int modulus (by omega)]
  have isRest :
      value.exact - modulus * truncate (value.exact / modulus) =
        modulus *
          (value.exact / modulus - truncate (value.exact / modulus)) := by
    rw [mul_sub, mul_div_cancel₀ _ modulusPos.ne']
  have cut := truncate_spec (value.exact / modulus)
  have above := mul_lt_mul_of_pos_left cut.1 modulusPos
  have below := mul_lt_mul_of_pos_left cut.2 modulusPos
  rw [← isRest] at above below
  split
  · next negative =>
      constructor
      · exact Rounding.nearest_nonneg (by linarith)
      · exact nearest_le_int (by omega) (by linarith)
  · next nonneg =>
      constructor
      · exact Rounding.nearest_nonneg (not_lt.mp nonneg)
      · exact nearest_le_int (by omega) (by linarith)

theorem inUnit_hourFeature (timestamp : rounding.Value) :
    InUnit (hourFeature timestamp) := by
  rcases @modulo_spec rounding timestamp 86400 (by decide) (by decide) with
    ⟨nonneg, atMost⟩
  rw [hourFeature, rounding.nearest_int 3600 (by decide)]
  have hoursNonneg :
      0 ≤ (rounding.round
        ((modulo timestamp 86400).exact / (3600 : Int))).exact := by
    apply Rounding.nearest_nonneg
    exact div_nonneg nonneg (by norm_num)
  have hoursAtMost :
      (rounding.round
        ((modulo timestamp 86400).exact / (3600 : Int))).exact ≤
          (24 : Int) := by
    apply nearest_le_int (by decide)
    rw [div_le_iff₀ (by norm_num)]
    refine atMost.trans (by norm_num)
  rw [truncate, if_neg (not_lt.mpr hoursNonneg)]
  apply inUnit_quotient
  · exact Int.floor_nonneg.mpr hoursNonneg
  · exact_mod_cast (Int.floor_le _).trans hoursAtMost
  · decide
  · decide

/-! ## Embeddings are well formed -/

namespace EmbeddingGenerator

variable (generator : EmbeddingGenerator) (md5 : Digest)

/-- The embedding of some order. -/
def Generates (embedding : List rounding.Value) : Prop :=
  ∃ accountID symbol side price quantity timestamp,
    generator.generateOrderEmbedding md5 accountID symbol side price
      quantity timestamp = embedding

variable {generator md5} {embedding : List rounding.Value}

theorem Generates.length_eq (generates : generator.Generates md5 embedding)
    (nonneg : 0 ≤ generator.embeddingDim) :
    embedding.length = generator.embeddingDim := by
  rcases generates with
    ⟨accountID, symbol, side, price, quantity, timestamp, rfl⟩
  rw [generateOrderEmbedding, slice, if_pos nonneg, List.length_take,
    List.length_append, List.length_replicate]
  omega

theorem Generates.inUnit (generates : generator.Generates md5 embedding)
    (nonneg : 0 ≤ generator.embeddingDim) :
    ∀ component ∈ embedding, InUnit component := by
  rcases generates with
    ⟨accountID, symbol, side, price, quantity, timestamp, rfl⟩
  intro component member
  rw [generateOrderEmbedding, slice, if_pos nonneg] at member
  rcases List.mem_append.mp (List.mem_of_mem_take member) with
    feature | padding
  · simp only [List.mem_append, List.mem_cons, List.not_mem_nil,
      or_false] at feature
    rcases feature with (account | symbol) | rfl | rfl | rfl | rfl
    · exact inUnit_hashFeatures component account
    · exact inUnit_hashFeatures component symbol
    · split
      · exact inUnit_one
      · exact inUnit_zero
    · exact inUnit_sizeFeature price
    · exact inUnit_sizeFeature quantity
    · exact inUnit_hourFeature timestamp
  · rw [List.eq_of_mem_replicate padding]
    exact inUnit_zero

/-- The components of an embedding as real numbers. -/
noncomputable def components (embedding : List rounding.Value) : List ℝ :=
  embedding.map fun component => (component.exact : ℝ)

@[simp]
theorem length_components (embedding : List rounding.Value) :
    (components embedding).length = embedding.length :=
  List.length_map _

theorem Generates.components_nonneg
    (generates : generator.Generates md5 embedding)
    (nonneg : 0 ≤ generator.embeddingDim) :
    ∀ a ∈ components embedding, 0 ≤ a := by
  intro a member
  rcases List.mem_map.mp member with ⟨component, isComponent, rfl⟩
  exact Rat.cast_nonneg.mpr (generates.inUnit nonneg _ isComponent).1

end EmbeddingGenerator

/-- The similarity of lists of the same length, without negative numbers. -/
theorem cosineSimilarity_spec {emb1 emb2 : List ℝ}
    (sameLength : emb1.length = emb2.length)
    (nonneg1 : ∀ a ∈ emb1, 0 ≤ a) (nonneg2 : ∀ b ∈ emb2, 0 ≤ b) :
    ∃ similarity,
      cosineSimilarity emb1 emb2 = .ok similarity ∧
        0 ≤ similarity ∧ similarity ≤ 1 := by
  rw [cosineSimilarity, if_neg (not_not.mpr sameLength)]
  dsimp only
  rw [← DotProducts.dot_self, ← DotProducts.dot_self]
  split
  · exact ⟨0, rfl, le_refl 0, zero_le_one⟩
  · next nonzero =>
      rw [not_or] at nonzero
      rw [if_neg (mul_ne_zero nonzero.1 nonzero.2)]
      refine ⟨_, rfl, ?_, ?_⟩
      · apply div_nonneg (DotProducts.dot_nonneg nonneg1 nonneg2)
        exact mul_nonneg (Real.sqrt_nonneg _) (Real.sqrt_nonneg _)
      · exact
          DotProducts.div_sqrt_mul_sqrt_le_one
            (DotProducts.dot_nonneg nonneg1 nonneg1)
            (DotProducts.dot_sq_le sameLength)

/-- A digest of zeros. -/
def zeroDigest : Digest :=
  fun _ => Vector.replicate 16 0

/-- The embedding of an order before 1970, in exact arithmetic. -/
def earlyOrder : List (IntegralRounding.identity 1000000).Value :=
  EmbeddingGenerator.generateOrderEmbedding { embeddingDim := 12 } zeroDigest
    "ACC-123" "AAPL" "BUY" 1500000 (-100) ⟨-1, rfl⟩

end AeroRisk.Guardrail.Agent1
