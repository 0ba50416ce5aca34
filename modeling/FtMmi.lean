import FtMmi.Lib.StepSystem
import FtMmi.Lib.ByteImage
import FtMmi.Lib.FrameStream
import FtMmi.Network.StreamBuffer
import FtMmi.Network.StreamBufferTheorems
import FtMmi.Network.TypedStream
import FtMmi.Network.CursorSafety
import FtMmi.Event.KeyEvent
import FtMmi.Event.PointerEvent
import FtMmi.Network.PacketM
import FtMmi.Event.DataTransformation
import FtMmi.Event.KeyEventTheorems
import FtMmi.Event.PointerEventTheorems
import FtMmi.Network.CircleStreamBuffer
import FtMmi.Network.NetPacket
import FtMmi.Socket.ReadPackets
import FtMmi.Server.Receiver
import FtMmi.Socket.SendMsg
import FtMmi.Lib.FramePieces
import FtMmi.Socket.FrameAlignment
import FtMmi.Server.SessionIndex
import FtMmi.Device.InputDeviceManager
import FtMmi.Lib.Delivery
import FtMmi.Device.DevListener
import FtMmi.Lib.KeyedList
import FtMmi.Timer.TimerManager
import FtMmi.Socket.SessionEvents
import FtMmi.EventHandler.ANRManager
import FtMmi.EventHandler.TimerOwnership
import FtMmi.Event.KeyEventRoundTrip
import FtMmi.EventHandler.KeyEventNormalize
import FtMmi.EventHandler.KeyAutoRepeat
import FtMmi.EventHandler.AutoRepeatTheorems
import FtMmi.WindowManager.DisplayInfo
import FtMmi.WindowManager.InputWindowsManager
import FtMmi.Event.PointerItems
import FtMmi.TouchEventNormalize.TouchTransformProcessor
import FtMmi.WindowManager.PointerSurveillance
import FtMmi.TouchEventNormalize.TouchItems
import FtMmi.EventDispatch.EventDispatchHandler
import FtMmi.WindowManager.SelectedWindow
import FtMmi.EventDispatch.StaleTarget
import FtMmi.EventDispatch.TouchRecords
import FtMmi.EventDispatch.TouchGestures
import FtMmi.KeySubscriber.KeySubscriberHandler
import FtMmi.KeySubscriber.SubscriberTimers
import FtMmi.KeySubscriber.TimerPlaces
import FtMmi.KeySubscriber.SubscriptionBoard
import FtMmi.KeySubscriber.RegistrationOrder
import FtMmi.Event.Parcel
import FtMmi.Event.ParcelTransport
import FtMmi.Timer.TimerHistory
import FtMmi.EventHandler.ANRBlocking
import FtMmi.InputHandler.EventMonitorHandler
import FtMmi.InputHandler.GestureConsumption
import FtMmi.InputHandler.HandlerMasks
import FtMmi.InputHandler.ConsumerAcknowledgement
import FtMmi.DelegateTask.DelegateTasks
import FtMmi.DelegateTask.TaskQueue
import FtMmi.DelegateTask.SyncCancellation
import FtMmi.MessageHandle.ServerMsgHandler
import FtMmi.MessageHandle.InjectedTargets
import FtMmi.WindowManager.MouseCapture
import FtMmi.Client.MMIClient
import FtMmi.Client.KeyEventInputSubscribeManager
import FtMmi.Client.SubscriptionAcceptance
import FtMmi.Lib.Brackets
import FtMmi.MouseEventNormalize.MouseEventNormalize
import FtMmi.MouseEventNormalize.AxisBrackets
import FtMmi.InputDeviceCooperate.InputDeviceCooperateSM
import FtMmi.InputDeviceCooperate.Continuations
import FtMmi.InputDeviceCooperate.Transitions
import FtMmi.InputDeviceCooperate.ForeignMessages
import FtMmi.InputDeviceCooperate.StateObjects
import FtMmi.InputDeviceCooperate.AttemptFinish
import FtMmi.InputDeviceCooperate.StuckTransitions
import FtMmi.Client.Reconnection
import FtMmi.MouseEventNormalize.ButtonStream
import FtMmi.Network.PacketFields
import FtMmi.MessageHandle.DisplayLayout
import FtMmi.InputDeviceCooperate.DistributedInputAdapter
import FtMmi.InputDeviceCooperate.RemoteInputAnswers
import FtMmi.InputDeviceCooperate.DeviceCooperateSoftbusAdapter
import FtMmi.InputDeviceCooperate.SessionMap
import FtMmi.InputDeviceCooperate.CooperateLocks
import FtMmi.Client.InputManagerImpl
import FtMmi.Client.RestoredRegistrations
import FtMmi.InputDeviceCooperate.CooperateEventManager
import FtMmi.InputDeviceCooperate.CooperationReplies
import FtMmi.MouseEventNormalize.MouseMotion
import FtMmi.MouseEventNormalize.MouseOnDisplay
import FtMmi.Lib.Visits
import FtMmi.Socket.SendAccounting
import FtMmi.Lib.BoundedQueue
import FtMmi.Network.CircleQueue
import FtMmi.Event.EventCopies
import FtMmi.Network.ErrorFlag
import FtMmi.Network.PacketCopies
import FtMmi.Server.SocketPair
import FtMmi.Socket.ReferenceDecoder
import FtMmi.Client.InputDeviceImpl
import FtMmi.Network.CountedLoops
import FtMmi.Event.DecodingBounds
import FtMmi.Timer.ProcessTimers
import FtMmi.Timer.TimerCalls
import FtMmi.EventDispatch.EventPackets
import FtMmi.EventDispatch.WholeEvents
import FtMmi.Timer.NeverEarly
import FtMmi.EventHandler.AcknowledgementOrder
import FtMmi.EventHandler.RepeatOwnership
import FtMmi.KeyCommand.KeyCommandHandler
import FtMmi.KeyCommand.CandidateList
import FtMmi.KeyCommand.TypedKeys
import FtMmi.KeyCommand.ShortcutMatch
import FtMmi.KeyCommand.ShortcutConsumption
import FtMmi.KeyCommand.SpecialKeyRecord
import FtMmi.KeyCommand.SequenceOutcome
import FtMmi.KeyCommand.ClaimedKeys
import FtMmi.KeyCommand.PendingLaunches
import FtMmi.Client.SubscriptionOrder
import FtMmi.WindowManager.HotArea
import FtMmi.WindowManager.TouchRotation
import FtMmi.MouseEventNormalize.CursorConfinement
import FtMmi.WindowManager.HoverTarget
import FtMmi.WindowManager.PointerStyles
import FtMmi.KeySubscriber.KeyUpHandling
import FtMmi.MouseEventNormalize.ButtonAgreement
import FtMmi.Device.DeviceAnnouncements
import FtMmi.EventDispatch.PointerSplit
import FtMmi.EventHandler.LockKeyState
import FtMmi.Client.ListenerRegistration
import FtMmi.WindowManager.DisplayReads
import FtMmi.WindowManager.PointerDrawingManager
import FtMmi.WindowManager.PointerVisibility
import FtMmi.WindowManager.PointerPlace
import FtMmi.EventHandler.KeyEventValueTransformation
import FtMmi.EventHandler.KeyMapManager
import FtMmi.Lib.LineReader
import FtMmi.Util.NumberText
import FtMmi.EventHandler.DeviceConfigFiles
import FtMmi.EventHandler.KeyTableFiles
import FtMmi.TouchEventNormalize.TabletToolTransformProcessor
import FtMmi.TouchEventNormalize.PenContact
import FtMmi.TouchEventNormalize.GestureTransformProcessor
import FtMmi.TouchEventNormalize.TouchEventNormalize
import FtMmi.TouchEventNormalize.ProcessorSelection
import FtMmi.DelegateTask.IssuedIds
import FtMmi.InputHandler.CappedHandlers
import FtMmi.TouchEventNormalize.PinchItems
import FtMmi.EventDispatch.CancelledTouches
import FtMmi.KeyCommand.SpecialTimers
import FtMmi.InputDeviceCooperate.PendingAttempt
import FtMmi.InputDeviceCooperate.TwoDevices
import FtMmi.KeyCommand.AbilityLaunchConfig
import FtMmi.KeyCommand.ConfigLoading
import FtMmi.EventDispatch.MouseDrags
import FtMmi.InputConsumer.JsRegisterModule
import FtMmi.Timer.ServiceLoop
import FtMmi.InputConsumer.HeldSubscriptions
import FtMmi.JsMonitor.JsInputMonitor
import FtMmi.JsMonitor.WaitingEvents
import FtMmi.JsMonitor.AnsweredEvents
