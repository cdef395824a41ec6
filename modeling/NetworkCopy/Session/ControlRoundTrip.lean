import NetworkCopy.Session.ControlArrival

/-!
# The control stream carries its messages

All messages of the control stream together.  A message that was written is read back from the front
of the stream, and nothing behind it is touched, with one exception: the writer of a verification
response does not check the limit that its reader has.  What is read has no duplicates, is within
the limits and can be written and read again.
-/

namespace NetworkCopy

open Duplex ByteOrder

/-- The two verifications of a session. -/
inductive VerificationPhase where
  | freshResume
  | update
  deriving DecidableEq

namespace VerificationPhase

def requestMessage : VerificationPhase → UInt8
  | freshResume => messageFreshResumeVerifyRequest
  | update => messageUpdateVerifyRequest

def responseMessage : VerificationPhase → UInt8
  | freshResume => messageFreshResumeVerifyResponse
  | update => messageUpdateVerifyResponse

def description : VerificationPhase → String
  | freshResume => "fresh-resume verification"
  | update => "update-verification"

end VerificationPhase

/-- The messages of the control stream that follow each other without framing. -/
inductive ControlMessage where
  | verificationRequest (phase : VerificationPhase) (digests : DigestMap)
  | verificationResponse (phase : VerificationPhase) (matchingFileIds : Finset Nat)
  | receiverReady (ready : ReceiverReady)
  | generationCommit (commit : GenerationCommit)
  | largeCdcBegin (fileIds : List Nat)
  | transferAck (ack : TransferAck)
  | sourceDirectoryName (name : Option SourceDirectoryName)
  | desktopLayout (layout : Option DesktopLayoutSnapshot)

/-- What a reader expects. -/
inductive ControlKind where
  | verificationRequest (phase : VerificationPhase)
  | verificationResponse (phase : VerificationPhase)
  | receiverReady
  | generationCommit
  | largeCdcBegin
  | transferAck
  | sourceDirectoryName
  | desktopLayout
  deriving DecidableEq

def ControlMessage.kind : ControlMessage → ControlKind
  | .verificationRequest phase _ => .verificationRequest phase
  | .verificationResponse phase _ => .verificationResponse phase
  | .receiverReady _ => .receiverReady
  | .generationCommit _ => .generationCommit
  | .largeCdcBegin _ => .largeCdcBegin
  | .transferAck _ => .transferAck
  | .sourceDirectoryName _ => .sourceDirectoryName
  | .desktopLayout _ => .desktopLayout

/-- What the caller of a reader has read already, to decide which message comes. -/
def ControlKind.announcement : ControlKind → Bytes
  | .verificationRequest phase => [phase.requestMessage]
  | .receiverReady => [messageReceiverReady]
  | .largeCdcBegin => [messageLargeCdcBegin]
  | _ => []

section

variable {Address : Type} (texts : TextSupport Address) (manifest : Manifest)

/-- The writer of a message. -/
def ControlMessage.write : ControlMessage → Party Unit
  | .verificationRequest phase digests => writeVerificationRequest phase.requestMessage digests
  | .verificationResponse phase matchingFileIds =>
      writeVerificationResponse phase.responseMessage matchingFileIds
  | .receiverReady ready => writeReceiverReady ready
  | .generationCommit commit => writeGenerationCommit commit
  | .largeCdcBegin fileIds => writeLargeCdcBegin fileIds
  | .transferAck ack => writeTransferAck ack
  | .sourceDirectoryName name => writeSourceDirectoryName name
  | .desktopLayout layout => writeDesktopLayoutMetadata texts layout

/-- The reader of a message, on a machine that has the manifest. -/
def ControlKind.read : ControlKind → Party ControlMessage
  | .verificationRequest phase => do
      let digests ← readVerificationRequest
      return .verificationRequest phase digests
  | .verificationResponse phase => do
      let matchingFileIds ← readVerificationResponse phase.responseMessage phase.description
      return .verificationResponse phase matchingFileIds
  | .receiverReady => do
      let ready ← readReceiverReadyAfterMessage messageReceiverReady
      return .receiverReady ready
  | .generationCommit => do
      let commit ← readGenerationCommit
      return .generationCommit commit
  | .largeCdcBegin => do
      let fileIds ← readLargeCdcCandidateFileIds manifest
      return .largeCdcBegin fileIds
  | .transferAck => do
      let ack ← readTransferAck
      return .transferAck ack
  | .sourceDirectoryName => do
      let name ← readSourceDirectoryName texts
      return .sourceDirectoryName name
  | .desktopLayout => do
      let layout ← readDesktopLayoutMetadata texts
      return .desktopLayout layout

/-- A value with the types of the source; the candidates of a large-file message are different large
files of the manifest. -/
def ControlMessage.Typed : ControlMessage → Prop
  | .receiverReady ready => ready.Typed
  | .largeCdcBegin fileIds => fileIds.Nodup ∧ ∀ fileId ∈ fileIds, manifest.IsLarge fileId
  | .transferAck ack => ack.Typed
  | _ => True

/-- The response is within the limit of its reader. -/
def ControlMessage.ResponseWithinLimit : ControlMessage → Prop
  | .verificationResponse _ matchingFileIds => matchingFileIds.card ≤ maxUnchangedOfferFiles
  | _ => True

/-- There is no duplicate, and the counts are within their limits. -/
def ControlMessage.Bounded : ControlMessage → Prop
  | .verificationRequest _ digests =>
      (digests.toList.map Prod.fst).Nodup ∧ digests.size ≤ maxUnchangedOfferFiles
  | .verificationResponse _ matchingFileIds => matchingFileIds.card ≤ maxUnchangedOfferFiles
  | .receiverReady ready => ready.Bounded
  | .generationCommit commit => commit.Carried
  | .largeCdcBegin fileIds => fileIds.Nodup ∧ fileIds.length ≤ maxUnchangedOfferFiles
  | .transferAck _ => True
  | .sourceDirectoryName name => (nameBytes name).length ≤ maxSourceDirectoryNameUtf8Bytes
  | .desktopLayout layout => (layoutBytes layout).length ≤ maxDesktopLayoutBytes

variable {texts manifest}

/-- A reader that wraps its value. -/
theorem parses_wrap {α β : Type} {q : Party α} {wrap : α → β} {w : Bytes} {b : β} :
    Parses (q >>= fun a => .ret (wrap a)) w b ↔ ∃ a, Parses q w a ∧ b = wrap a := by
  rw [parses_bind]
  simp only [parses_ret]
  constructor
  · intro ⟨first, rest, a, hw, hfirst, hrest, hb⟩
    rw [hrest, List.append_nil] at hw
    exact ⟨a, hw ▸ hfirst, hb⟩
  · intro ⟨a, ha, hb⟩
    exact ⟨w, [], a, (List.append_nil w).symm, ha, rfl, hb⟩

/-- The answer of the receiver arrives. -/
theorem ReceiverReady.parses_written {ready : ReceiverReady} (htyped : ready.Typed) {w : Bytes}
    (h : Emits (writeReceiverReady ready) w (.ok ())) :
    ∃ body, w = [messageReceiverReady] ++ body ∧
      Parses (readReceiverReadyAfterMessage messageReceiverReady) body ready := by
  obtain ⟨⟨hbounded, hids⟩, hw⟩ := emits_writeReceiverReady.mp h
  have hstripeCount : ready.completedStripes.sort.length ≤ maxResumeOfferStripes := by
    rw [Finset.length_sort]
    exact hbounded.stripes
  have hcount : ready.unchangedFileIds.sort.length ≤ maxUnchangedOfferFiles := by
    rw [Finset.length_sort]
    exact hbounded.unchanged
  have hstripes : ∀ stripe ∈ ready.completedStripes.sort, stripe.Typed := by
    intro stripe hmem
    exact htyped.stripes stripe ((Finset.mem_sort _).mp hmem)
  refine ⟨_, hw, ?_⟩
  rw [parses_readReceiverReady]
  exact ⟨_, _, rfl, htyped.summary,
    ⟨hstripeCount, nodup_sort _, hstripes, eq_toFinset_sort ready.completedStripes⟩,
    ⟨hcount, nodup_sort _, hids.sort, eq_toFinset_sort ready.unchangedFileIds⟩, rfl⟩

/-- What a writer writes is its announcement and what the reader parses, when a response is within
its limit. -/
theorem ControlMessage.parses_written {message : ControlMessage} (htyped : message.Typed manifest)
    {w : Bytes} (h : Emits (message.write texts) w (.ok ())) :
    ∃ body, w = message.kind.announcement ++ body ∧
      (message.ResponseWithinLimit → Parses (message.kind.read texts manifest) body message) := by
  cases message with
  | verificationRequest phase digests =>
    obtain ⟨⟨hcount, hids⟩, hw⟩ := emits_writeVerificationRequest.mp h
    refine ⟨requestBytes digests.toList, hw, fun _ => parses_wrap.mpr ⟨digests, ?_, rfl⟩⟩
    exact parses_readVerificationRequest.mpr ⟨digests.toList,
      by rw [Std.ExtTreeMap.length_toList]; exact hcount, digests.nodup_toList, hids,
      digests.ofList_toList.symm, rfl⟩
  | verificationResponse phase matchingFileIds =>
    exact ⟨w, (List.nil_append w).symm, fun hlimit => parses_wrap.mpr
      ⟨matchingFileIds, parses_written_verificationResponse hlimit h, rfl⟩⟩
  | receiverReady ready =>
    obtain ⟨body, hw, hparses⟩ := ReceiverReady.parses_written htyped h
    exact ⟨body, hw, fun _ => parses_wrap.mpr ⟨ready, hparses, rfl⟩⟩
  | generationCommit commit =>
    exact ⟨w, rfl, fun _ => parses_wrap.mpr ⟨commit,
      parses_readGenerationCommit.mpr (emits_writeGenerationCommit.mp h), rfl⟩⟩
  | largeCdcBegin fileIds =>
    obtain ⟨⟨hcount, hids⟩, hw⟩ := emits_writeLargeCdcBegin.mp h
    refine ⟨_, hw, fun _ => parses_wrap.mpr ⟨fileIds, ?_, rfl⟩⟩
    exact parses_readLargeCdcCandidateFileIds.mpr
      ⟨⟨hcount, htyped.1, fun fileId hmem => ⟨htyped.2 fileId hmem, hids fileId hmem⟩⟩, rfl⟩
  | transferAck ack =>
    exact ⟨w, rfl, fun _ => parses_wrap.mpr ⟨ack,
      parses_readTransferAck.mpr ⟨htyped, emits_writeTransferAck.mp h⟩, rfl⟩⟩
  | sourceDirectoryName name =>
    exact ⟨w, rfl, fun _ => parses_wrap.mpr ⟨name,
      (parses_readSourceDirectoryName texts).mpr (emits_writeSourceDirectoryName.mp h), rfl⟩⟩
  | desktopLayout layout =>
    exact ⟨w, rfl, fun _ => parses_wrap.mpr ⟨layout,
      (parses_readDesktopLayoutMetadata texts).mpr
        ((emits_writeDesktopLayoutMetadata texts).mp h), rfl⟩⟩

/-- What a reader parses is a bounded message of its kind, which its writer accepts. -/
theorem ControlKind.parsed {kind : ControlKind} {w : Bytes} {message : ControlMessage}
    (h : Parses (kind.read texts manifest) w message) :
    message.kind = kind ∧ message.Typed manifest ∧ message.Bounded ∧
      ∃ again, Emits (message.write texts) again (.ok ()) := by
  cases kind with
  | verificationRequest phase =>
    obtain ⟨digests, hdigests, hmessage⟩ := parses_wrap.mp h
    obtain ⟨entries, hcount, hnodup, hids, hsame, _⟩ :=
      parses_readVerificationRequest.mp hdigests
    have hsize : digests.size ≤ maxUnchangedOfferFiles := by
      rw [hsame, Std.ExtTreeMap.size_ofList (distinct_of_nodup hnodup)]
      exact hcount
    have hrepresentable : digests.Representable := by
      rw [hsame]
      exact DigestMap.representable_ofList hids
    rw [hmessage]
    exact ⟨rfl, trivial, ⟨digests.nodup_toList, hsize⟩, _,
      emits_writeVerificationRequest.mpr ⟨⟨hsize, hrepresentable⟩, rfl⟩⟩
  | verificationResponse phase =>
    obtain ⟨matchingFileIds, hresponse, hmessage⟩ := parses_wrap.mp h
    obtain ⟨fileIds, hcount, hnodup, hids, hsame, _⟩ :=
      parses_readVerificationResponse.mp hresponse
    have hcard : matchingFileIds.card ≤ maxUnchangedOfferFiles := by
      rw [hsame, List.toFinset_card_of_nodup hnodup]
      exact hcount
    have hall : AllRepresentable matchingFileIds := by
      intro fileId hmem
      rw [hsame, List.mem_toFinset] at hmem
      exact hids fileId hmem
    have hlt := count_lt (.inl hcard)
    rw [hmessage]
    exact ⟨rfl, trivial, hcard, _,
      emits_writeVerificationResponse.mpr ⟨⟨by omega, hall⟩, rfl⟩⟩
  | receiverReady =>
    obtain ⟨ready, hready, hmessage⟩ := parses_wrap.mp h
    obtain ⟨stripes, fileIds, _, hsummary, ⟨hstripeCount, hstripesNodup, htyped, hstripes⟩,
      ⟨hcount, hnodup, hids, hfiles⟩, _⟩ := parses_readReceiverReady.mp hready
    have hbounded : ready.Bounded := by
      constructor
      · rw [hstripes, List.toFinset_card_of_nodup hstripesNodup]
        exact hstripeCount
      · rw [hfiles, List.toFinset_card_of_nodup hnodup]
        exact hcount
    have hall : AllRepresentable ready.unchangedFileIds := by
      intro fileId hmem
      rw [hfiles, List.mem_toFinset] at hmem
      exact hids fileId hmem
    rw [hmessage]
    refine ⟨rfl, ⟨hsummary, ?_⟩, hbounded, _,
      emits_writeReceiverReady.mpr ⟨⟨hbounded, hall⟩, rfl⟩⟩
    intro stripe hmem
    rw [hstripes, List.mem_toFinset] at hmem
    exact htyped stripe hmem
  | generationCommit =>
    obtain ⟨commit, hcommit, hmessage⟩ := parses_wrap.mp h
    obtain ⟨hcarried, _⟩ := parses_readGenerationCommit.mp hcommit
    rw [hmessage]
    exact ⟨rfl, trivial, hcarried, _, emits_writeGenerationCommit.mpr ⟨hcarried, rfl⟩⟩
  | largeCdcBegin =>
    obtain ⟨fileIds, hlarge, hmessage⟩ := parses_wrap.mp h
    obtain ⟨⟨hcount, hnodup, hids⟩, _⟩ := parses_readLargeCdcCandidateFileIds.mp hlarge
    rw [hmessage]
    exact ⟨rfl, ⟨hnodup, fun fileId hmem => (hids fileId hmem).1⟩, ⟨hnodup, hcount⟩, _,
      emits_writeLargeCdcBegin.mpr
        ⟨⟨hcount, fun fileId hmem => (hids fileId hmem).2⟩, rfl⟩⟩
  | transferAck =>
    obtain ⟨ack, hack, hmessage⟩ := parses_wrap.mp h
    rw [hmessage]
    exact ⟨rfl, (parses_readTransferAck.mp hack).1, trivial, _,
      emits_writeTransferAck.mpr rfl⟩
  | sourceDirectoryName =>
    obtain ⟨name, hname, hmessage⟩ := parses_wrap.mp h
    have hcarried := (parses_readSourceDirectoryName texts).mp hname
    rw [hmessage]
    exact ⟨rfl, trivial, hcarried.1, w, emits_writeSourceDirectoryName.mpr hcarried⟩
  | desktopLayout =>
    obtain ⟨layout, hlayout, hmessage⟩ := parses_wrap.mp h
    have hcarried := (parses_readDesktopLayoutMetadata texts).mp hlayout
    rw [hmessage]
    refine ⟨rfl, trivial, ?_, w, (emits_writeDesktopLayoutMetadata texts).mpr hcarried⟩
    show (layoutBytes layout).length ≤ maxDesktopLayoutBytes
    cases layout with
    | none => exact Nat.zero_le _
    | some snapshot => exact (hcarried.1 snapshot rfl).limit

end

end NetworkCopy
