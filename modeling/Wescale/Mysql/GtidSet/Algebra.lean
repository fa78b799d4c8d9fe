import Wescale.Mysql.GtidSet.Union
import Wescale.Mysql.GtidSet.Intersect
import Wescale.Mysql.GtidSet.Compare

/-! # Union and Intersect as set operations

On canonical GTID sets `Union` and `Intersect` compute the union and the intersection of
what the sets mean (`den_union`, `den_intersect`) and keep the canonical form. `Equal` on
canonical sets is equality of meaning (`equal_iff_den`), so both operations are
commutative and associative up to `Equal`. Nothing here is said of sets outside the
canonical form; what the parser builds is treated in `Wescale.Mysql.GtidSet.Parsed`. -/

set_option autoImplicit false

namespace Wescale.Mysql

variable {a b c : Mysql56GTIDSet}

theorem union_equal_comm (ha : a.Canonical) (hb : b.Canonical) :
    (a.union b).equal (b.union a) = true := by
  rw [equal_iff_den (union_canonical ha hb) (union_canonical hb ha), den_union ha hb,
    den_union hb ha]
  exact Set.union_comm _ _

theorem union_equal_assoc (ha : a.Canonical) (hb : b.Canonical) (hc : c.Canonical) :
    ((a.union b).union c).equal (a.union (b.union c)) = true := by
  have hab := union_canonical ha hb
  have hbc := union_canonical hb hc
  rw [equal_iff_den (union_canonical hab hc) (union_canonical ha hbc), den_union hab hc,
    den_union ha hbc, den_union ha hb, den_union hb hc]
  exact Set.union_assoc _ _ _

theorem intersect_equal_comm (ha : a.Canonical) (hb : b.Canonical) :
    (a.intersect b).equal (b.intersect a) = true := by
  rw [equal_iff_den (intersect_canonical ha hb) (intersect_canonical hb ha),
    den_intersect ha hb, den_intersect hb ha]
  exact Set.inter_comm _ _

theorem intersect_equal_assoc (ha : a.Canonical) (hb : b.Canonical) (hc : c.Canonical) :
    ((a.intersect b).intersect c).equal (a.intersect (b.intersect c)) = true := by
  have hab := intersect_canonical ha hb
  have hbc := intersect_canonical hb hc
  rw [equal_iff_den (intersect_canonical hab hc) (intersect_canonical ha hbc),
    den_intersect hab hc, den_intersect ha hbc, den_intersect ha hb, den_intersect hb hc]
  exact Set.inter_assoc _ _ _

/-- On canonical sets `Union` and `Intersect` are closed, mean the union and the
intersection, and are commutative and associative up to `Equal`. -/
theorem union_intersect_laws (ha : a.Canonical) (hb : b.Canonical) (hc : c.Canonical) :
    (a.union b).Canonical ∧ (a.intersect b).Canonical ∧
      (a.union b).den = a.den ∪ b.den ∧ (a.intersect b).den = a.den ∩ b.den ∧
      (a.union b).equal (b.union a) = true ∧ (a.intersect b).equal (b.intersect a) = true ∧
      ((a.union b).union c).equal (a.union (b.union c)) = true ∧
      ((a.intersect b).intersect c).equal (a.intersect (b.intersect c)) = true :=
  ⟨union_canonical ha hb, intersect_canonical ha hb, den_union ha hb, den_intersect ha hb,
    union_equal_comm ha hb, intersect_equal_comm ha hb, union_equal_assoc ha hb hc,
    intersect_equal_assoc ha hb hc⟩

/-- A server id for the sample sets below. -/
def sampleSid : SID := Vector.replicate 16 1

/-- Three canonical one-server sets, touching and overlapping: `1-3:7-9`, `4-5` and `2-8`. -/
def sampleA : Mysql56GTIDSet := AList.singleton sampleSid [⟨1, 3⟩, ⟨7, 9⟩]

def sampleB : Mysql56GTIDSet := AList.singleton sampleSid [⟨4, 5⟩]

def sampleC : Mysql56GTIDSet := AList.singleton sampleSid [⟨2, 8⟩]

theorem union_intersect_laws_sample :
    sampleA.Canonical ∧ sampleB.Canonical ∧ sampleC.Canonical ∧
      ((sampleA.union sampleB).Canonical ∧ (sampleA.intersect sampleB).Canonical ∧
      (sampleA.union sampleB).den = sampleA.den ∪ sampleB.den ∧
      (sampleA.intersect sampleB).den = sampleA.den ∩ sampleB.den ∧
      (sampleA.union sampleB).equal (sampleB.union sampleA) = true ∧
      (sampleA.intersect sampleB).equal (sampleB.intersect sampleA) = true ∧
      ((sampleA.union sampleB).union sampleC).equal (sampleA.union (sampleB.union sampleC)) = true ∧
      ((sampleA.intersect sampleB).intersect sampleC).equal
        (sampleA.intersect (sampleB.intersect sampleC)) = true) :=
  have ha : sampleA.Canonical := by decide
  have hb : sampleB.Canonical := by decide
  have hc : sampleC.Canonical := by decide
  ⟨ha, hb, hc, union_intersect_laws ha hb hc⟩

end Wescale.Mysql
