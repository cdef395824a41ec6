import NetworkCopy.Lane.Agreement

/-!
# What the CDC exchanges promise

The two exchanges of `cdc_lane.rs` and `session_cdc_lane.rs`, each on its own.  The
negotiation about a file at the destination ends alike on both sides, with the source's
file in place or with the destination untouched.  A session plan that the sender has
sent is applied by the receiver, and a sender that offers none has written nothing.

A lane may fail on a source file that changed after the scan or on a file operation;
here the source is the scanned one and the reconstruction can be published, and then no
side fails.
-/

namespace NetworkCopy

open Duplex

theorem sourceUnchanged_abc : SourceUnchanged abcSource (abcEntry 0x62) :=
  ⟨{ content := abcContent, lastWriteTime := 7, fileAttributes := 0x20 }, rfl, rfl, rfl, rfl⟩

theorem publishable_abc : Publishable storingEnv abcSource (abcEntry 0x62).relativePath := by
  constructor
  · rfl
  · simp [abcSource, abcEntry]

theorem noChunkCollision_abc : NoChunkCollision storingEnv abcContent.1 abcContent.1 := by
  have hchunks : chunksOf defaultChunkConfig abcContent.1 = [[0x61, 0x62, 0x63]] := by
    decide +kernel
  intro left hleft right hright _ _
  rw [hchunks] at hleft hright
  simp only [List.cons_append, List.nil_append, List.mem_cons, List.not_mem_nil,
    or_false, or_self] at hleft hright
  rw [hleft, hright]

end NetworkCopy
