import SingTun.System.Safety

/-!
# Echo requests

The stack answers an echo request to its own address itself, and also those
to other addresses that nobody takes.  The packet of the request becomes the
reply, over whatever options and payload the request has.
-/

namespace SingTun.System

open Foundation Header

/-- A packet with an echo request, and where the request is. -/
structure EchoRequest (family : Family) (packet : Bytes) (icmpHdr : Slice)
    (source destination : Addr family) : Prop where
  valid : isValid family packet packet.length = true
  transport : transportProtocol? family packet = some (ICMP.protocolNumber family)
  located : payload? family packet = some icmpHdr
  header : 8 ≤ icmpHdr.length
  type : ICMP.type? packet icmpHdr = some (ICMP.echo family)
  sourceAddr : sourceAddr? family packet = some source
  destinationAddr : destinationAddr? family packet = some destination

/--
The request is for the stack itself, or it is for another address and
`directNat.Lookup` has neither an answer nor anyone to pass it on to.
-/
def AnswersItself {family : Family} (system : SystemStack) (env : Env) (destination : Addr family)
    (code : UInt8) : Prop :=
  code = 0 ∧ (some destination = (system.inet family).map Inet.inetAddress ∨
      (env.directRoute.err ≠ some .reset ∧ env.directRoute.err ≠ some .drop ∧
        env.directRoute.action = false))

/-- What becomes of a request. -/
structure EchoVerdict
    (family : Family) (system : SystemStack) (env : Env) (packet : Bytes)
    (icmpHdr : Slice) (source destination : Addr family) (verdict : Verdict) :
    Prop where
  answered : verdict.writeBack = true ↔
    AnswersItself system env destination (byteAt packet (icmpHdr.start + 1))
  replied : verdict.writeBack = true → verdict = .keep verdict.packet ∧
      EchoReplyOf family packet icmpHdr source destination verdict.packet

section Answers

variable {family : Family} {packet : Bytes} {icmpHdr : Slice}
variable {source destination : Addr family}

theorem EchoVerdict.other {system : SystemStack} {env : Env} {verdict : Verdict}
    (unwritten : verdict.writeBack = false)
    (unanswered : ¬AnswersItself system env destination (byteAt packet (icmpHdr.start + 1))) :
    EchoVerdict family system env packet icmpHdr source destination
      verdict := by
  have contradiction : verdict.writeBack ≠ true := by
    rw [unwritten]
    decide
  exact ⟨⟨fun written => absurd written contradiction, fun answers => absurd answers unanswered⟩,
    fun written => absurd written contradiction⟩

theorem EchoVerdict.own {system : SystemStack} {env : Env} {reply : Bytes}
    (replies : EchoReplyOf family packet icmpHdr source destination reply)
    (answers : AnswersItself system env destination (byteAt packet (icmpHdr.start + 1))) :
    EchoVerdict family system env packet icmpHdr source destination (.keep reply) :=
  ⟨⟨fun _ => answers, fun _ => rfl⟩, fun _ => ⟨rfl, replies⟩⟩

/-- A request that the stack answers itself is written back as its reply. -/
theorem echo_answered (request : EchoRequest family packet icmpHdr source destination)
    (system : SystemStack) (env : Env) :
    ∃ verdict, processICMP family system env packet icmpHdr = some verdict ∧
      EchoVerdict family system env packet icmpHdr source destination
        verdict := by
  have message := request.header
  have code : ICMP.code? packet icmpHdr = some (byteAt packet (icmpHdr.start + 1)) :=
    Slice.byteAt?_eq_some (by omega)
  obtain ⟨reply, replied, replies⟩ := echoReply_spec request.valid
    request.located (by omega) request.sourceAddr request.destinationAddr
  obtain ⟨error, rejected⟩ := Option.isSome_iff_exists.mp
    (rejectWithICMP_isSome system env request.valid)
  unfold processICMP
  simp only [request.type, code, request.destinationAddr, replied, rejected,
    some_bind, Option.pure_def, ne_eq, not_true_eq_false, if_false]
  split
  case isTrue coded => exact ⟨_, rfl, .other rfl fun answers => coded answers.1⟩
  case isFalse plain =>
    have zero := not_not.mp plain
    split
    case isFalse here =>
      exact ⟨_, rfl, .own replies ⟨zero, .inl (not_not.mp here)⟩⟩
    case isTrue elsewhere =>
      split
      case isTrue reset =>
        have unanswered : ¬AnswersItself system env destination
            (byteAt packet (icmpHdr.start + 1)) := by
          rintro ⟨-, here | ⟨noReset, -⟩⟩
          · exact elsewhere here
          · exact noReset reset
        cases error with
        | none => exact ⟨_, rfl, .other rfl unanswered⟩
        | some newPacket => exact ⟨_, rfl, .other rfl unanswered⟩
      case isFalse noReset =>
        split
        case isTrue drop =>
          refine ⟨_, rfl, .other rfl ?_⟩
          rintro ⟨-, here | ⟨-, noDrop, -⟩⟩
          · exact elsewhere here
          · exact noDrop drop
        case isFalse noDrop =>
          split
          case isTrue action =>
            refine ⟨_, rfl, .other rfl ?_⟩
            rintro ⟨-, here | ⟨-, -, noAction⟩⟩
            · exact elsewhere here
            · exact absurd (action.symm.trans noAction) (by decide)
          case isFalse noAction =>
            exact ⟨_, rfl, .own replies ⟨zero, .inr
              ⟨noReset, noDrop, Bool.eq_false_iff.mpr noAction⟩⟩⟩

end Answers

theorem echo_answered_sample :
    ∃ packet', processICMP .v4 plainSystem (.filled 0) echoRequest ⟨20, 8⟩ = some (.keep packet') ∧
      EchoReplyOf .v4 echoRequest ⟨20, 8⟩ (.from4 10 0 0 9) (.from4 1 2 3 4) packet' := by
  have request : EchoRequest .v4 echoRequest ⟨20, 8⟩ (.from4 10 0 0 9) (.from4 1 2 3 4) := by
    constructor <;> decide
  obtain ⟨verdict, processed, answered, replied⟩ := echo_answered request plainSystem (.filled 0)
  have answers : AnswersItself plainSystem (.filled 0)
      (Addr.from4 1 2 3 4) (byteAt echoRequest 21) :=
    ⟨by decide, .inr ⟨by decide, by decide, rfl⟩⟩
  obtain ⟨kept, reply⟩ := replied (answered.mpr answers)
  rw [kept] at processed
  exact ⟨verdict.packet, processed, reply⟩

end SingTun.System
