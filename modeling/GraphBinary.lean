import GraphBinary.Internals.Ioc
import GraphBinary.Internals.IntSerializer
import GraphBinary.Internals.ListSerializer
import GraphBinary.Laws
import GraphBinary.Correctness.Framing
import GraphBinary.Correctness.RoundTrip
import GraphBinary.Dispatch.Int
import GraphBinary.Correctness.SelfDelimiting
import GraphBinary.Correctness.Canonical
import GraphBinary.Correctness.Modes
import GraphBinary.Dispatch.Value
import GraphBinary.Correctness.Rejections
import GraphBinary.Correctness.Stream
