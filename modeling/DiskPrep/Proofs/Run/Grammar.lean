import DiskPrep.Proofs.Run.Scripted
import Mathlib.Computability.Language

/-!
Words of requests. A run that may stop early asks for the beginning of a word, and for
all of it when it comes to its end (`Follows`). Runs joined one behind the other follow
the product of their languages (`follows_bind`).
-/
namespace DiskPrep

open Workflow
open scoped Computability

/-- The requests begin a word of the language; they are one when the run is complete. -/
structure Follows (words : Language Call) (complete : Prop) (calls : List Call) : Prop where
  begins : ∃ word ∈ words, calls <+: word
  whole : complete → calls ∈ words

namespace Follows

variable {words more : Language Call} {complete finished : Prop} {calls later : List Call}

/-- A run that stops early has asked for the beginning of some word. -/
theorem of_prefix {word : List Call} (member : word ∈ words) (begins : calls <+: word)
    (stopped : ¬ complete) : Follows words complete calls :=
  ⟨⟨word, member, begins⟩, fun done => absurd done stopped⟩

theorem nothing (possible : ∃ word, word ∈ words) (stopped : ¬ complete) :
    Follows words complete [] := by
  obtain ⟨word, member⟩ := possible
  exact of_prefix member List.nil_prefix stopped

theorem imp (follows : Follows words complete calls) (earlier : finished → complete) :
    Follows words finished calls :=
  ⟨follows.begins, fun done => follows.whole (earlier done)⟩

theorem alone_mul {call : Call} (member : calls ∈ words) : call :: calls ∈ {[call]} * words :=
  Language.mem_mul.mpr ⟨[call], rfl, calls, member, rfl⟩

/-- A request that is a word of its own, and what follows it. -/
theorem cons {call : Call} (rest : Follows words complete calls) :
    Follows ({[call]} * words) complete (call :: calls) := by
  obtain ⟨word, member, begins⟩ := rest.begins
  refine ⟨⟨call :: word, alone_mul member, ?_⟩, ?_⟩
  · exact List.cons_prefix_cons.mpr ⟨rfl, begins⟩
  · intro done
    exact alone_mul (rest.whole done)

theorem append (first : Follows words complete calls) (done : complete)
    (second : Follows more finished later) : Follows (words * more) finished (calls ++ later) := by
  obtain ⟨word, member, begins⟩ := second.begins
  refine ⟨⟨calls ++ word, ?_, List.prefix_append_right_inj calls |>.mpr begins⟩, ?_⟩
  · exact Language.append_mem_mul (first.whole done) member
  · intro end_
    exact Language.append_mem_mul (first.whole done) (second.whole end_)

/-- A word that goes on in some way is begun by what begins its first part. -/
theorem stop (first : Follows words complete calls) (possible : ∃ word, word ∈ more)
    (stopped : ¬ finished) : Follows (words * more) finished calls := by
  obtain ⟨word, member, begins⟩ := first.begins
  obtain ⟨rest, restMember⟩ := possible
  exact of_prefix (Language.append_mem_mul member restMember)
    (begins.trans (List.prefix_append word rest)) stopped

end Follows

def release : Language Call := {word | ∃ point, word = [.unmount point]}

end DiskPrep
