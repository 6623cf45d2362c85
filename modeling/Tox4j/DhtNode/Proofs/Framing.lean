import Tox4j.DhtNode.Packet
import Tox4j.DhtNode.Proofs.Message
import Tox4j.Misc.Codec

/-!
# Counted lists

The loop of `Packet.unpack_repeated` collects the elements in reverse and returns what comes of
reading the number of elements, in the order in which they were read.
-/

namespace Tox4j.DhtNode

open Tox4j.Misc

variable {α : Type} {f : Consume (OrError α)} {acc as : List α} {n : ℕ} {buf mid left : List UInt8}

theorem unpackLoop_zero (acc : List α) (buf : List UInt8) :
    unpackLoop f acc 0 buf = .ok (.ok acc.reverse, buf) := rfl

/-- Behind elements that were read, the loop goes on with the others. -/
theorem unpackLoop_reads (h : f.Reads as buf mid) (acc : List α) (n : ℕ) :
    unpackLoop f acc (as.length + n) buf = unpackLoop f (as.reverse ++ acc) n mid := by
  induction h generalizing acc with
  | nil buf => rw [List.length_nil, Nat.zero_add, List.reverse_nil, List.nil_append]
  | cons ha has ih =>
    rw [List.length_cons, Nat.add_right_comm, List.reverse_cons, List.append_assoc,
      List.singleton_append, ← ih]
    exact Reader.onOk_ok ha

/-- An error of an element is the error of all. -/
theorem unpackLoop_err {e : Error} (h : f buf = .ok (.error e, left)) :
    unpackLoop f acc (n + 1) buf = .ok (.error e, left) := Reader.onOk_err h

theorem unpackLoop_raises {e : Exn} (h : f buf = .error e) :
    unpackLoop f acc (n + 1) buf = .error e := Reader.onOk_raises h

/-- The loop behind fewer elements than the number has an element to read. -/
theorem unpackLoop_reads_lt (h : f.Reads as buf mid) (hlt : as.length < n) :
    ∃ k, unpackLoop f [] n buf = unpackLoop f as.reverse (k + 1) mid := by
  rcases Nat.exists_eq_add_of_lt hlt with ⟨k, rfl⟩
  refine ⟨k, ?_⟩
  rw [Nat.add_assoc, unpackLoop_reads h, List.append_nil]

/-- The loop returns what comes of reading the number of elements. -/
theorem unpackLoop_of_readsCount {result : Except Exn (OrError (List α) × List UInt8)}
    (h : f.ReadsCount n buf result) : unpackLoop f [] n buf = result := by
  cases h with
  | @all as left has hlength =>
    have hloop := unpackLoop_reads has [] 0
    rw [Nat.add_zero, hlength, List.append_nil, unpackLoop_zero, List.reverse_reverse] at hloop
    exact hloop
  | fails has hlt he =>
    rcases unpackLoop_reads_lt has hlt with ⟨k, hloop⟩
    rw [hloop]
    exact unpackLoop_err he
  | raises has hlt he =>
    rcases unpackLoop_reads_lt has hlt with ⟨k, hloop⟩
    rw [hloop]
    exact unpackLoop_raises he

theorem unpackLoop_eq_iff {result : Except Exn (OrError (List α) × List UInt8)} :
    unpackLoop f [] n buf = result ↔ f.ReadsCount n buf result := by
  constructor
  · intro h
    rcases f.exists_readsCount n buf with ⟨result', hcount⟩
    rw [unpackLoop_of_readsCount hcount] at h
    rw [← h]
    exact hcount
  · exact unpackLoop_of_readsCount

/-- A number of elements is returned exactly if they are read one after the other. -/
theorem unpackLoop_eq_ok :
    unpackLoop f [] n buf = .ok (.ok as, left) ↔ as.length = n ∧ f.Reads as buf left :=
  unpackLoop_eq_iff.trans Reader.readsCount_ok

/-- The error is the one of an element within the number, and nothing is read behind it. -/
theorem unpackLoop_eq_err {e : Error} :
    unpackLoop f [] n buf = .ok (.error e, left) ↔
      ∃ as mid, as.length < n ∧ f.Reads as buf mid ∧ f mid = .ok (.error e, left) :=
  unpackLoop_eq_iff.trans Reader.readsCount_fails

theorem unpackLoop_eq_raises {e : Exn} :
    unpackLoop f [] n buf = .error e ↔
      ∃ as mid, as.length < n ∧ f.Reads as buf mid ∧ f mid = .error e :=
  unpackLoop_eq_iff.trans Reader.readsCount_raises

theorem unpackRepeated_cons (n : UInt8) (buf : List UInt8) :
    unpackRepeated f (n :: buf) = unpackLoop f [] n.toNat buf := rfl

/-- What is in the buffer behind a list: its number, and what the elements were written to. -/
theorem packRepeated_eq_ok {write : α → Fill} {list : List α} {buf buf' : List UInt8}
    (h : packRepeated list write buf = .ok buf') :
    list.foldlM (fun buf a => write a buf) (buf ++ [UInt8.ofNat list.length]) = .ok buf' := by
  rcases fill_bind_eq_ok.mp h with ⟨mid, hcount, hfold⟩
  rw [fill_string_eq_ok hcount] at hfold
  exact hfold

/-- The kind bytes are a codec. -/
theorem kind_codec : Codec Kind.unpack Kind.pack := by
  constructor
  intro kind buf buf' h
  refine ⟨[UInt8.ofNat kind.toInt], fill_string_eq_ok h, fun left => ?_⟩
  cases kind <;> rfl

end Tox4j.DhtNode
