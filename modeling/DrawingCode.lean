import DrawingCode.Configuration
import DrawingCode.Item.Equality
import DrawingCode.Item.Written
import DrawingCode.Proofs.Code.Bodies
import DrawingCode.Proofs.Code.Closure
import DrawingCode.Proofs.Code.Frames
import DrawingCode.Proofs.Code.Functions
import DrawingCode.Proofs.Configuration
import DrawingCode.Proofs.Configuration.Unquoted
import DrawingCode.Proofs.Configuration.Validation
import DrawingCode.Proofs.Configuration.Written
import DrawingCode.Proofs.Generation.Accounting
import DrawingCode.Proofs.Generation.Agreement
import DrawingCode.Proofs.Generation.Closure
import DrawingCode.Proofs.Generation.Composition
import DrawingCode.Proofs.Generation.Equality
import DrawingCode.Proofs.Generation.Faults
import DrawingCode.Proofs.Generation.Fidelity
import DrawingCode.Proofs.Generation.Independence
import DrawingCode.Proofs.Generation.Numbering
import DrawingCode.Proofs.Generation.Placement
import DrawingCode.Proofs.Generation.Records
import DrawingCode.Proofs.Generation.Renaming
import DrawingCode.Proofs.Item.Written
import DrawingCode.Proofs.Resource.Ownership
import DrawingCode.Proofs.Run
import DrawingCode.Proofs.Session.History
import DrawingCode.Proofs.Session.Isolation
import DrawingCode.Proofs.Session.Numbering
import DrawingCode.Proofs.Value.Conversion
import DrawingCode.Proofs.Value.Form
import DrawingCode.Session
