import StupidSimple.Mininet.Messages

/-!
Owns where the calls of `Sender` and `Receiver` come from: each message they send and each
call to their controllers is put down to the event of its step, and to what was read in it.

`Sender.step_attributed` and `Receiver.step_attributed` are the step lemmas; a session
rests on nothing else about the two machines.
-/

namespace StupidSimple.Mininet

open StupidSimple.Library

/-- The transport number of a segment or a padding. -/
def SimBody.transportNumber : SimBody → Option UInt16
  | .segment seg => some seg.transportSeq
  | .pad body => some body.transportSeq
  | _ => none

/-- A message of this id and body, and its datagram. -/
structure SentMessage.Is (message : SentMessage) (mid : UInt8) (body : SimBody) : Prop where
  mid : message.header.mid = mid
  body : message.body = body
  carries : Carries message.data message.header message.body

theorem encodeTo_is {peer : SuAddr} {mid : UInt8} {uid : UInt32} {body : SimBody}
    {strm sent : BinStream} {message : SentMessage}
    (ran : encodeTo peer (initSimHeader mid uid) body strm = some (message, sent))
    (fits : body.Fits mid) : message.Is mid body := by
  have ⟨sameHeader, sameBody, carries⟩ := encodeTo_carries ran fits
  exact ⟨congrArg SimHeader.mid sameHeader, sameBody, sameHeader ▸ sameBody ▸ carries⟩

/-! ### The sender -/

/-- The pacer asks for padding, or the controller does. -/
def SenderEvent.IsPadding : SenderEvent → Prop
  | .timeToSendPadding _ _ _ | .sendPadding _ _ _ => True
  | _ => False

namespace Sender

variable {sender after : Sender} {calls : List SenderCall}

/-- The message belongs to the event. -/
inductive Sends (event : SenderEvent) (message : SentMessage) : Prop where
  | ping {now later : Int64} {arrived : Option Datagram} (own : event = .process now later arrived)
      (sent : message.Is simPing (.ping ⟨now⟩))
  | pong {now later : Int64} {datagram : Datagram} {header : SimHeader} {body : SimPing}
      (own : event = .process now later (some datagram))
      (read : Reads datagram.data header (.ping body)) (asked : header.mid = simPing)
      (sent : message.Is simPong (.ping body))
  | segment {number : UInt16} {now : Int64} {seg : SimSegment}
      (own : event = .timeToSendPacket number now) (sent : message.Is simSeg (.segment seg))
  | pad {body : SimPad} (own : event.IsPadding) (sent : message.Is simPad (.pad body))

/-- The call belongs to the event. -/
inductive Attributed (event : SenderEvent) : SenderCall → Prop where
  | newSegment {payloadType : UInt8} {ftype : Int32} {data : List UInt8} {now : Int64}
      (own : event = .sendVideo payloadType ftype data now) (seg : SimSegment) :
      Attributed event (.newSegment seg)
  | insertPacket (ssrc : UInt32) (number : UInt16) (time : Int64) (bytes : UInt16) :
      Attributed event (.insertPacket ssrc number time bytes)
  | addPacket (ssrc : UInt32) (number : UInt16) (length : Nat) :
      Attributed event (.addPacket ssrc number length)
  | onSentPacket (number : UInt16) (time : Int64) : Attributed event (.onSentPacket number time)
  | sendToNetwork {message : SentMessage} (sends : Sends event message) :
      Attributed event (.sendToNetwork message)
  | onRttUpdate {now later averageRtt maxRtt : Int64} {datagram : Datagram} {header : SimHeader}
      {body : SimPing} (state : Sender) (own : event = .process now later (some datagram))
      (read : Reads datagram.data header (.ping body)) (answered : header.mid = simPong)
      (positive : 0 < later - body.ts)
      (reported : .onRttUpdate averageRtt maxRtt ∈
        (state.updateRtt (toUInt32 (later - body.ts))).2) :
      Attributed event (.onRttUpdate averageRtt maxRtt)
  | onTransportFeedback {now later : Int64} {datagram : Datagram} {header : SimHeader}
      {body : SimFeedback} (own : event = .process now later (some datagram))
      (read : Reads datagram.data header (.feedback body)) :
      Attributed event (.onTransportFeedback body.feedback.1)

theorem sendMessage_is {mid : UInt8} {body : SimBody}
    (sent : sender.sendMessage mid body = some (after, calls)) (fits : body.Fits mid) :
    ∃ message, message.Is mid body ∧ calls = [.sendToNetwork message] := by
  have ⟨written, encoded, same⟩ := Option.bind_eq_some_iff.mp sent
  cases same
  exact ⟨written.1, encodeTo_is encoded fits, rfl⟩

theorem attributed_sendPadding {event : SenderEvent} (own : event.IsPadding)
    {payloadLen : UInt16} {ts : UInt32} {stack : Vector UInt8 paddingDataSize}
    (sent : sender.sendPadding payloadLen ts stack = some (after, calls)) :
    ∀ call ∈ calls, Attributed event call := by
  unfold sendPadding at sent
  split at sent
  · have ⟨written, encoded, same⟩ := Option.bind_eq_some_iff.mp sent
    cases same
    have ⟨message, is, sameCalls⟩ := sendMessage_is encoded rfl
    intro call member
    rw [sameCalls, List.cons_append, List.nil_append] at member
    rcases List.mem_cons.mp member with rfl | told
    · exact .sendToNetwork (.pad own is)
    rcases List.mem_cons.mp told with rfl | last
    · exact .addPacket _ _ _
    · obtain rfl := List.mem_singleton.mp last
      exact .onSentPacket _ _
  · contradiction

theorem attributed_sendPaddings {event : SenderEvent} (own : event.IsPadding) {now : Int64}
    {stack : Nat → Vector UInt8 paddingDataSize} {remain : Nat}
    (sent : sender.sendPaddings now stack remain = some (after, calls)) :
    ∀ call ∈ calls, Attributed event call := by
  induction remain using Nat.strong_induction_on generalizing sender calls with
  | _ remain inductionHypothesis =>
      unfold sendPaddings at sent
      split_ifs at sent with positive whole part
      · have ⟨first, padded, rest⟩ := Option.bind_eq_some_iff.mp sent
        have ⟨second, later, same⟩ := Option.bind_eq_some_iff.mp rest
        cases same
        have smaller : remain - (paddingHeaderLen + maxPadSize) < remain := by
          simp only [paddingHeaderLen, maxPadSize]
          omega
        intro call member
        rcases List.mem_append.mp member with now | afterwards
        · exact attributed_sendPadding own padded call now
        · exact inductionHypothesis _ smaller later call afterwards
      · exact attributed_sendPadding own sent
      · cases sent
        exact List.forall_mem_nil _
      · cases sent
        exact List.forall_mem_nil _

theorem attributed_timeToSendPadding {event : SenderEvent} (own : event.IsPadding) {bytes : Nat}
    {now : Int64} {stack : Nat → Vector UInt8 paddingDataSize}
    (sent : sender.timeToSendPadding bytes now stack = some (after, calls)) :
    ∀ call ∈ calls, Attributed event call := by
  unfold timeToSendPadding at sent
  split_ifs at sent with few
  · cases sent
    exact List.forall_mem_nil _
  · exact attributed_sendPaddings own sent

theorem attributed_timeToSendPacket {sequenceNumber : UInt16} {now : Int64}
    (sent : sender.timeToSendPacket sequenceNumber now = some (after, calls)) :
    ∀ call ∈ calls, Attributed (.timeToSendPacket sequenceNumber now) call := by
  unfold timeToSendPacket getSegment at sent
  cases found : sender.pendingBuf.find? sequenceNumber with
  | none =>
      rw [found] at sent
      cases sent
      exact List.forall_mem_nil _
  | some seg =>
      rw [found] at sent
      have ⟨written, encoded, same⟩ := Option.bind_eq_some_iff.mp sent
      cases same
      have ⟨message, is, sameCalls⟩ := sendMessage_is encoded rfl
      intro call member
      rw [sameCalls, List.cons_append, List.nil_append] at member
      rcases List.mem_cons.mp member with rfl | told
      · exact .sendToNetwork (.segment rfl is)
      rcases List.mem_cons.mp told with rfl | last
      · exact .addPacket _ _ _
      · obtain rfl := List.mem_singleton.mp last
        exact .onSentPacket _ _

theorem attributed_sendVideo {payloadType : UInt8} {ftype : Int32} {data : List UInt8}
    {now : Int64} (sent : sender.sendVideo payloadType ftype data now = some (after, calls)) :
    ∀ call ∈ calls, Attributed (.sendVideo payloadType ftype data now) call := by
  unfold sendVideo at sent
  split_ifs at sent with stopped empty admitted
  · cases sent
    exact List.forall_mem_nil _
  · cases sent
    exact List.forall_mem_nil _
  · cases sent
    intro call member
    rcases List.mem_append.mp member with made | inserted
    · obtain ⟨seg, _, rfl⟩ := List.mem_map.mp made
      exact .newSegment rfl seg
    · obtain ⟨entry, _, rfl⟩ := List.mem_map.mp inserted
      exact .insertPacket _ _ _ _

theorem attributed_pingIfDue {now later : Int64} {arrived : Option Datagram}
    (sent : sender.pingIfDue now = some (after, calls)) :
    ∀ call ∈ calls, Attributed (.process now later arrived) call := by
  unfold pingIfDue at sent
  split_ifs at sent with due
  · have ⟨written, encoded, same⟩ := Option.bind_eq_some_iff.mp sent
    cases same
    have ⟨message, is, sameCalls⟩ := sendMessage_is encoded (Or.inl rfl)
    rw [sameCalls]
    intro call member
    obtain rfl := List.mem_singleton.mp member
    exact .sendToNetwork (.ping rfl is)
  · cases sent
    exact List.forall_mem_nil _

theorem updateRtt_calls (time : UInt32) (sender : Sender) :
    ∃ averageRtt maxRtt, (sender.updateRtt time).2 = [.onRttUpdate averageRtt maxRtt] := by
  unfold updateRtt
  dsimp only
  split
  · exact ⟨_, _, rfl⟩
  · exact ⟨_, _, rfl⟩

theorem attributed_processingMsg {now later : Int64} {datagram : Datagram} {remote : SuAddr}
    {rstream : BinStream}
    (received : suUdpRecv binStreamInit (some datagram) = some (remote, rstream))
    (ran : sender.processingMsg later rstream = some (after, calls)) :
    ∀ call ∈ calls, Attributed (.process now later (some datagram)) call := by
  have ⟨⟨decoded, headed⟩, readHeader, rest⟩ := Option.bind_eq_some_iff.mp ran
  dsimp only at rest
  cases decoded with
  | none =>
      cases rest
      exact List.forall_mem_nil _
  | some header =>
      dsimp only at rest
      unfold processingBody at rest
      split_ifs at rest with outside ping pong feedback
      · cases rest
        exact List.forall_mem_nil _
      · have ⟨⟨body, strm⟩, readBody, answer⟩ := Option.bind_eq_some_iff.mp rest
        dsimp only at answer
        split at answer
        · next asked =>
            have ⟨written, encoded, same⟩ := Option.bind_eq_some_iff.mp answer
            cases same
            have read : Reads datagram.data header (.ping asked) :=
              ⟨datagram.remote, remote, rstream, headed, strm, received, readHeader, readBody⟩
            intro call member
            obtain rfl := List.mem_singleton.mp member
            exact .sendToNetwork (.pong rfl read ping (encodeTo_is encoded (Or.inr rfl)))
        · cases answer
      · have ⟨⟨body, strm⟩, readBody, answer⟩ := Option.bind_eq_some_iff.mp rest
        dsimp only at answer
        split at answer
        · next answered =>
            split_ifs at answer with positive
            · have read : Reads datagram.data header (.ping answered) :=
                ⟨datagram.remote, remote, rstream, headed, strm, received, readHeader, readBody⟩
              have ⟨averageRtt, maxRtt, reported⟩ :=
                sender.updateRtt_calls (toUInt32 (later - answered.ts))
              have sameCalls : (sender.updateRtt (toUInt32 (later - answered.ts))).2 = calls :=
                congrArg Prod.snd (Option.some.inj answer)
              intro call member
              rw [← sameCalls, reported, List.mem_singleton] at member
              subst member
              have listed : .onRttUpdate averageRtt maxRtt ∈
                  (sender.updateRtt (toUInt32 (later - answered.ts))).2 := by
                rw [reported]
                exact List.mem_singleton_self _
              exact .onRttUpdate sender rfl read pong positive listed
            · cases answer
              exact List.forall_mem_nil _
        · cases answer
      · have ⟨⟨body, strm⟩, readBody, answer⟩ := Option.bind_eq_some_iff.mp rest
        dsimp only at answer
        split at answer
        · next told =>
            cases answer
            have read : Reads datagram.data header (.feedback told) :=
              ⟨datagram.remote, remote, rstream, headed, strm, received, readHeader, readBody⟩
            intro call member
            obtain rfl := List.mem_singleton.mp member
            exact .onTransportFeedback rfl read
        · cases answer
          exact List.forall_mem_nil _
      · cases rest
        exact List.forall_mem_nil _

theorem attributed_process {now later : Int64} {arrived : Option Datagram}
    (ran : sender.process now later arrived = some (after, calls)) :
    ∀ call ∈ calls, Attributed (.process now later arrived) call := by
  unfold process at ran
  split_ifs at ran with stopped
  · cases ran
    exact List.forall_mem_nil _
  · have ⟨⟨pinged, pings⟩, sentPing, rest⟩ := Option.bind_eq_some_iff.mp ran
    dsimp only at rest
    cases arrived with
    | none =>
        cases rest
        exact attributed_pingIfDue sentPing
    | some datagram =>
        cases received : suUdpRecv binStreamInit (some datagram) with
        | none =>
            rw [received] at rest
            cases rest
            exact attributed_pingIfDue sentPing
        | some result =>
            rw [received] at rest
            have ⟨processed, message, same⟩ := Option.bind_eq_some_iff.mp rest
            cases same
            intro call member
            rcases List.mem_append.mp member with first | second
            · exact attributed_pingIfDue sentPing call first
            · exact attributed_processingMsg received message call second

/-- Every call of a step belongs to its event. -/
theorem step_attributed {event : SenderEvent}
    (stepped : machine.step sender event = some (after, calls)) :
    ∀ call ∈ calls, Attributed event call := by
  cases event with
  | start =>
      cases stepped
      exact List.forall_mem_nil _
  | stop =>
      cases stepped
      exact List.forall_mem_nil _
  | sendVideo => exact attributed_sendVideo stepped
  | timeToSendPacket => exact attributed_timeToSendPacket stepped
  | timeToSendPadding => exact attributed_timeToSendPadding trivial stepped
  | sendPadding => exact attributed_sendPadding trivial stepped
  | process => exact attributed_process stepped

/-! ### Transport numbers -/

/-- Every segment and padding in these calls is announced to the controller, under the
number that it carries. -/
def Announced (calls : List SenderCall) : Prop :=
  ∀ message, .sendToNetwork message ∈ calls →
    ∀ number ∈ message.body.transportNumber, ∃ time, .onSentPacket number time ∈ calls

theorem announced_nil : Announced [] := fun _ member => absurd member List.not_mem_nil

theorem Announced.append {left right : List SenderCall} (one : Announced left)
    (two : Announced right) : Announced (left ++ right) := by
  intro message member number numbered
  rcases List.mem_append.mp member with first | second
  · have ⟨time, told⟩ := one message first number numbered
    exact ⟨time, List.mem_append_left _ told⟩
  · have ⟨time, told⟩ := two message second number numbered
    exact ⟨time, List.mem_append_right _ told⟩

theorem announced_of_message {message : SentMessage} {number : UInt16} {time : Int64}
    {ssrc : UInt32} {length : Nat} (numbered : message.body.transportNumber = some number) :
    Announced [.sendToNetwork message, .addPacket ssrc number length,
      .onSentPacket number time] := by
  intro other member found same
  have isMessage : other = message := by simpa using member
  rw [isMessage, numbered] at same
  obtain rfl := Option.some.inj same
  exact ⟨time, by simp⟩

theorem announced_sendPadding {payloadLen : UInt16} {ts : UInt32}
    {stack : Vector UInt8 paddingDataSize}
    (sent : sender.sendPadding payloadLen ts stack = some (after, calls)) : Announced calls := by
  unfold sendPadding at sent
  split at sent
  · have ⟨written, encoded, same⟩ := Option.bind_eq_some_iff.mp sent
    cases same
    have ⟨message, is, sameCalls⟩ := sendMessage_is encoded rfl
    rw [sameCalls]
    exact announced_of_message (congrArg SimBody.transportNumber is.body)
  · contradiction

theorem announced_sendPaddings {now : Int64} {stack : Nat → Vector UInt8 paddingDataSize}
    {remain : Nat} (sent : sender.sendPaddings now stack remain = some (after, calls)) :
    Announced calls := by
  induction remain using Nat.strong_induction_on generalizing sender calls with
  | _ remain inductionHypothesis =>
      unfold sendPaddings at sent
      split_ifs at sent with positive whole part
      · have ⟨first, padded, rest⟩ := Option.bind_eq_some_iff.mp sent
        have ⟨second, later, same⟩ := Option.bind_eq_some_iff.mp rest
        cases same
        have smaller : remain - (paddingHeaderLen + maxPadSize) < remain := by
          simp only [paddingHeaderLen, maxPadSize]
          omega
        exact (announced_sendPadding padded).append (inductionHypothesis _ smaller later)
      · exact announced_sendPadding sent
      · cases sent
        exact announced_nil
      · cases sent
        exact announced_nil

/-- Only the events of the pacer send segments and paddings. -/
theorem announced_of_unnumbered {event : SenderEvent}
    (unpaced : ∀ number now, event ≠ .timeToSendPacket number now) (unpadded : ¬event.IsPadding)
    (stepped : machine.step sender event = some (after, calls)) : Announced calls := by
  intro message member number numbered
  have sends : Sends event message := by
    cases step_attributed stepped _ member with
    | sendToNetwork sends => exact sends
  cases sends with
  | ping own sent =>
      rw [sent.body] at numbered
      cases numbered
  | pong own read asked sent =>
      rw [sent.body] at numbered
      cases numbered
  | segment own => exact absurd own (unpaced _ _)
  | pad own => exact absurd own unpadded

/-- A step announces all that it sends, when the buffer has each segment under its own
number. -/
theorem step_announced (stored : sender.Stored) {event : SenderEvent}
    (stepped : machine.step sender event = some (after, calls)) : Announced calls := by
  cases event with
  | timeToSendPadding bytes now stack =>
      change sender.timeToSendPadding bytes now stack = _ at stepped
      unfold timeToSendPadding at stepped
      split_ifs at stepped with few
      · cases stepped
        exact announced_nil
      · exact announced_sendPaddings stepped
  | sendPadding => exact announced_sendPadding stepped
  | timeToSendPacket sequenceNumber now =>
      cases found : sender.pendingBuf.find? sequenceNumber with
      | none =>
          change sender.timeToSendPacket sequenceNumber now = _ at stepped
          simp only [timeToSendPacket, getSegment, found] at stepped
          cases stepped
          exact announced_nil
      | some seg =>
          have numbered := (stored _ (OrderedMap.find?_eq_some.mp found)).1
          rw [timeToSendPacket_calls stepped found]
          apply announced_of_message
          exact congrArg some numbered
  | start | stop | sendVideo | process =>
      apply announced_of_unnumbered _ id stepped
      intro number now same
      cases same

end Sender

/-! ### The receiver -/

namespace Receiver

variable {receiver after : Receiver} {calls : List ReceiverCall}

inductive Sends (event : ReceiverEvent) (message : SentMessage) : Prop where
  | ping {now later : Int64} {arrived : Option Datagram} (own : event = .process now later arrived)
      (sent : message.Is simPing (.ping ⟨toInt64 (toUInt32 now)⟩))
  | pong {now later : Int64} {datagram : Datagram} {header : SimHeader} {body : SimPing}
      (own : event = .process now later (some datagram))
      (read : Reads datagram.data header (.ping body)) (asked : header.mid = simPing)
      (sent : message.Is simPong (.ping body))
  | feedback {body : SimFeedback} (own : event = .sendTransportFeedback body.feedback.1)
      (sent : message.Is simFeedback (.feedback body))

inductive Attributed (event : ReceiverEvent) : ReceiverCall → Prop where
  | sendToNetwork {message : SentMessage} (sends : Sends event message) :
      Attributed event (.sendToNetwork message)
  | onRecvSegment {now later : Int64} {datagram : Datagram} {header : SimHeader}
      {seg : SimSegment} (own : event = .process now later (some datagram))
      (read : Reads datagram.data header (.segment seg)) :
      Attributed event (.onRecvSegment header seg)
  | onRecvPad {now later : Int64} {datagram : Datagram} {header : SimHeader} {body : SimPad}
      (own : event = .process now later (some datagram))
      (read : Reads datagram.data header (.pad body)) : Attributed event (.onRecvPad header body)
  | onReceivedPacket {now later : Int64} {datagram : Datagram} {header : SimHeader}
      {body : SimBody} {number : UInt16} (own : event = .process now later (some datagram))
      (read : Reads datagram.data header body) (numbered : body.transportNumber = some number)
      (time size : UInt32) : Attributed event (.onReceivedPacket time size header.uid number)
  | onRttUpdate {now later : Int64} {averageRtt maxRtt : UInt32} {datagram : Datagram}
      {header : SimHeader} {body : SimPing} (state : Receiver)
      (own : event = .process now later (some datagram))
      (read : Reads datagram.data header (.ping body)) (answered : header.mid = simPong)
      (positive : 0 < later - body.ts)
      (reported : .onRttUpdate averageRtt maxRtt ∈
        (state.updateRtt (toUInt32 (later - body.ts))).2) :
      Attributed event (.onRttUpdate averageRtt maxRtt)

theorem sendMessage_is {mid : UInt8} {body : SimBody}
    (sent : receiver.sendMessage mid body = some (after, calls)) (fits : body.Fits mid) :
    ∃ message, message.Is mid body ∧ calls = [.sendToNetwork message] := by
  have ⟨written, encoded, same⟩ := Option.bind_eq_some_iff.mp sent
  cases same
  exact ⟨written.1, encodeTo_is encoded fits, rfl⟩

theorem attributed_sendTransportFeedback {serialized : List UInt8}
    (sent : receiver.sendTransportFeedback serialized = some (after, calls)) :
    ∀ call ∈ calls, Attributed (.sendTransportFeedback serialized) call := by
  unfold sendTransportFeedback at sent
  split at sent
  · have ⟨message, is, sameCalls⟩ := sendMessage_is sent rfl
    rw [sameCalls]
    intro call member
    obtain rfl := List.mem_singleton.mp member
    exact .sendToNetwork (.feedback rfl is)
  · cases sent
    exact List.forall_mem_nil _

theorem attributed_pingIfDue {now later : Int64} {arrived : Option Datagram}
    (sent : receiver.pingIfDue (toUInt32 now) = some (after, calls)) :
    ∀ call ∈ calls, Attributed (.process now later arrived) call := by
  unfold pingIfDue at sent
  split_ifs at sent with connected due
  · have ⟨written, encoded, same⟩ := Option.bind_eq_some_iff.mp sent
    cases same
    have ⟨message, is, sameCalls⟩ := sendMessage_is encoded (Or.inl rfl)
    rw [sameCalls]
    intro call member
    obtain rfl := List.mem_singleton.mp member
    exact .sendToNetwork (.ping rfl is)
  · cases sent
    exact List.forall_mem_nil _
  · cases sent
    exact List.forall_mem_nil _

theorem updateRtt_calls (time : UInt32) (receiver : Receiver) :
    ∀ call ∈ (receiver.updateRtt time).2,
      ∃ averageRtt maxRtt, call = .onRttUpdate averageRtt maxRtt := by
  unfold updateRtt
  dsimp only
  split_ifs
  all_goals
    intro call member
    simp at member
  all_goals exact ⟨_, _, member⟩

theorem attributed_processingMsg {now later : Int64} {datagram : Datagram} {remote : SuAddr}
    {rstream : BinStream}
    (received : suUdpRecv binStreamInit (some datagram) = some (remote, rstream))
    (ran : receiver.processingMsg later rstream = some (after, calls)) :
    ∀ call ∈ calls, Attributed (.process now later (some datagram)) call := by
  have ⟨⟨decoded, headed⟩, readHeader, rest⟩ := Option.bind_eq_some_iff.mp ran
  dsimp only at rest
  cases decoded with
  | none =>
      cases rest
      exact List.forall_mem_nil _
  | some header =>
      dsimp only at rest
      unfold processingBody at rest
      split_ifs at rest with outside ping pong segment pad
      · cases rest
        exact List.forall_mem_nil _
      · have ⟨⟨body, strm⟩, readBody, answer⟩ := Option.bind_eq_some_iff.mp rest
        dsimp only at answer
        split at answer
        · next asked =>
            have ⟨written, encoded, same⟩ := Option.bind_eq_some_iff.mp answer
            cases same
            have read : Reads datagram.data header (.ping asked) :=
              ⟨datagram.remote, remote, rstream, headed, strm, received, readHeader, readBody⟩
            intro call member
            obtain rfl := List.mem_singleton.mp member
            exact .sendToNetwork (.pong rfl read ping (encodeTo_is encoded (Or.inr rfl)))
        · cases answer
      · have ⟨⟨body, strm⟩, readBody, answer⟩ := Option.bind_eq_some_iff.mp rest
        dsimp only at answer
        split at answer
        · next answered =>
            split_ifs at answer with positive
            · have read : Reads datagram.data header (.ping answered) :=
                ⟨datagram.remote, remote, rstream, headed, strm, received, readHeader, readBody⟩
              have sameCalls : (updateRtt (toUInt32 (later - answered.ts))
                  { receiver with sessionConnected := true }).2 = calls :=
                congrArg Prod.snd (Option.some.inj answer)
              intro call member
              rw [← sameCalls] at member
              have ⟨averageRtt, maxRtt, reported⟩ := updateRtt_calls _ _ call member
              subst reported
              exact .onRttUpdate _ rfl read pong positive member
            · cases answer
              exact List.forall_mem_nil _
        · cases answer
      · have ⟨⟨body, strm⟩, readBody, answer⟩ := Option.bind_eq_some_iff.mp rest
        dsimp only at answer
        split at answer
        · next seg =>
            cases answer
            have read : Reads datagram.data header (.segment seg) :=
              ⟨datagram.remote, remote, rstream, headed, strm, received, readHeader, readBody⟩
            intro call member
            rcases List.mem_cons.mp member with rfl | told
            · exact .onRecvSegment rfl read
            · obtain rfl := List.mem_singleton.mp told
              exact .onReceivedPacket rfl read rfl _ _
        · cases answer
          exact List.forall_mem_nil _
      · have ⟨⟨body, strm⟩, readBody, answer⟩ := Option.bind_eq_some_iff.mp rest
        dsimp only at answer
        split at answer
        · next padding =>
            cases answer
            have read : Reads datagram.data header (.pad padding) :=
              ⟨datagram.remote, remote, rstream, headed, strm, received, readHeader, readBody⟩
            intro call member
            rcases List.mem_cons.mp member with rfl | told
            · exact .onRecvPad rfl read
            · obtain rfl := List.mem_singleton.mp told
              exact .onReceivedPacket rfl read rfl _ _
        · cases answer
          exact List.forall_mem_nil _
      · cases rest
        exact List.forall_mem_nil _

theorem attributed_process {now later : Int64} {arrived : Option Datagram}
    (ran : receiver.process now later arrived = some (after, calls)) :
    ∀ call ∈ calls, Attributed (.process now later arrived) call := by
  unfold process at ran
  split_ifs at ran with stopped
  · cases ran
    exact List.forall_mem_nil _
  · have ⟨⟨pinged, pings⟩, sentPing, rest⟩ := Option.bind_eq_some_iff.mp ran
    dsimp only at rest
    cases arrived with
    | none =>
        cases rest
        exact attributed_pingIfDue sentPing
    | some datagram =>
        cases received : suUdpRecv binStreamInit (some datagram) with
        | none =>
            rw [received] at rest
            cases rest
            exact attributed_pingIfDue sentPing
        | some result =>
            rw [received] at rest
            have ⟨processed, message, same⟩ := Option.bind_eq_some_iff.mp rest
            cases same
            intro call member
            rcases List.mem_append.mp member with first | second
            · exact attributed_pingIfDue sentPing call first
            · exact attributed_processingMsg received message call second

theorem step_attributed {event : ReceiverEvent}
    (stepped : machine.step receiver event = some (after, calls)) :
    ∀ call ∈ calls, Attributed event call := by
  cases event with
  | process => exact attributed_process stepped
  | sendTransportFeedback => exact attributed_sendTransportFeedback stepped

end Receiver

end StupidSimple.Mininet
