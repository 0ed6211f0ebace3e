import Columnar.Converter
import Columnar.Proofs.Arena.Budget
import Columnar.Proofs.Arena.Bulk
import Columnar.Proofs.Arena.HandleMap
import Columnar.Proofs.Batch.SharedArena
import Columnar.Proofs.TableFile.Encodings
import Columnar.Proofs.TableFile.FailedRead
import Columnar.Proofs.TableFile.FirstBatch
import Columnar.Proofs.TableFile.Markers
import Columnar.Proofs.TableFile.WideFile
import Columnar.Session
import Columnar.Proofs.Schema
import Columnar.Proofs.Schema.Projection
import Columnar.Proofs.Batch.Materialised
import Columnar.Proofs.Column.Factories
import Columnar.Proofs.Matrix.Accessors
import Columnar.Proofs.Converter
import Columnar.Proofs.Ipc.Aborts
import Columnar.Proofs.Ipc.Buffers
import Columnar.Proofs.Ipc.Description
import Columnar.Proofs.Ipc.Layout
import Columnar.Proofs.Ipc.ShapeAborts
import Columnar.Proofs.Ipc.ArrayAborts
import Columnar.Proofs.Ipc.FileAborts
import Columnar.Proofs.TableFile.Aborted
import Columnar.Proofs.Dictionary.Grammar
import Columnar.Proofs.Dictionary.IdSearch
import Columnar.Proofs.Dictionary.Rejection
import Columnar.Proofs.Misfits
import Columnar.Proofs.TableFile.Transposition
import Columnar.Proofs.TableFile.Layout
