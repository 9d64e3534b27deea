import JavaxUsbLinux.EqualRemoval
import JavaxUsbLinux.PortForest
import JavaxUsbLinux.DeviceHeap
import JavaxUsbLinux.TopologyWalk
import JavaxUsbLinux.TopologyDiff
import JavaxUsbLinux.TopologyUpdate
import JavaxUsbLinux.NativeUrb
import JavaxUsbLinux.Runs
import JavaxUsbLinux.UrbOwnership
import JavaxUsbLinux.DeviceProxy
import JavaxUsbLinux.ProxyPlaces
import JavaxUsbLinux.PipeSystem
import JavaxUsbLinux.ProxyRequests
import JavaxUsbLinux.CancelQueue
import JavaxUsbLinux.UrbLife
import JavaxUsbLinux.InProgressList
import JavaxUsbLinux.StaleCancel
import JavaxUsbLinux.AbortAll
import JavaxUsbLinux.DescriptorLayout
import JavaxUsbLinux.LinuxRequests
import JavaxUsbLinux.DescriptorRoundTrip
import JavaxUsbLinux.BusDirectories
import JavaxUsbLinux.BusShift
import JavaxUsbLinux.NodeKeys
import JavaxUsbLinux.BufferReads
import JavaxUsbLinux.DescriptorBounds
import JavaxUsbLinux.DeviceRemoval
import JavaxUsbLinux.ProxyStart
import JavaxUsbLinux.RootHubAccess
import JavaxUsbLinux.SubmitFunctions
import JavaxUsbLinux.WaitLock
import JavaxUsbLinux.ControlData
import JavaxUsbLinux.ByteBlocks
import JavaxUsbLinux.IsochronousBuffer
import JavaxUsbLinux.IsochronousStatus
import JavaxUsbLinux.IsochronousSizes
import JavaxUsbLinux.ActiveSettings
import JavaxUsbLinux.TextLines
import JavaxUsbLinux.DevicesFile
import JavaxUsbLinux.NestedLogs
import JavaxUsbLinux.BuildResources
import JavaxUsbLinux.TopologyListener
import JavaxUsbLinux.BoundedResponse
import JavaxUsbLinux.ProxyRound
import JavaxUsbLinux.CancelAnswer
import JavaxUsbLinux.ProxyProgress
import JavaxUsbLinux.LoopGoesOn
import JavaxUsbLinux.AtomicObject
import JavaxUsbLinux.InterfaceClaims
import JavaxUsbLinux.InterfaceCalls
import JavaxUsbLinux.PortUnfolding
import JavaxUsbLinux.BusGraph
import JavaxUsbLinux.NodeNames
import JavaxUsbLinux.DescriptorLanguage
import JavaxUsbLinux.TopologyEvents
import JavaxUsbLinux.MonitorOrder
import JavaxUsbLinux.DriverMonitors
import JavaxUsbLinux.HeldResources
import JavaxUsbLinux.ConfigResources
import JavaxUsbLinux.LocalReferences
import JavaxUsbLinux.ProxyResources
import JavaxUsbLinux.CancelOnce
