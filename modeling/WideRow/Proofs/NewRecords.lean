import WideRow.Proofs.Handover
import WideRow.Proofs.Tracked

namespace WideRow

namespace ChangeSet

variable {plan : Plan} {s : Store} {w : Window} {key : Bytes} {fields : List Field} {g : String}
  {r : Record} {c : ChangeSet} {records : List Record} {L : List Cell}

end ChangeSet

namespace Worker

open ChangeSet RowOutput

variable {σ : Type} {inUse : σ → Prop} {sink : Sink σ} {plan : Plan} {s : Store} {w : Window}
  {key : Bytes} {fields : List Field} {r : Record}

end Worker

end WideRow
